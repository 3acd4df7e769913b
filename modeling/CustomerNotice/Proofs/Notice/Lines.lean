import CustomerNotice.Proofs.Notice.Delivery
import Mathlib.Data.List.Basic

/-!
# The lines of a notice

A newline in a printed value breaks a line of the notice, wherever the value is printed. Without
such newlines a notice has three lines, and from the last two the contact can be read again as long
as its email has no space: the blank behind the email then ends it. The first line would not do, as
a name may say anything.
-/

namespace CustomerNotice

namespace Bytes

def newline : UInt8 := 10

/-- The octets line by line. What stands behind the last newline is a line of its own. -/
def lines : Bytes → List Bytes
  | [] => []
  | byte :: rest =>
      if byte = newline then [] :: lines rest
      else
        match lines rest with
        | [] => [[byte]]
        | line :: more => (byte :: line) :: more

/-- Where the last line is ended like the others, each newline ends one line. -/
theorem lines_of_ended (bytes : Bytes) :
    (lines (bytes ++ [newline])).length = (bytes ++ [newline]).count newline := by
  induction bytes with
  | nil => rfl
  | cons byte rest induction =>
      rw [List.cons_append, lines]
      by_cases ending : byte = newline
      · rw [if_pos ending, List.length_cons, induction, ending, List.count_cons_self]
      · have somewhere : 0 < (rest ++ [newline]).count newline :=
          List.count_pos_iff.mpr List.mem_concat_self
        rw [if_neg ending, List.count_cons_of_ne ending, ← induction]
        rw [← induction] at somewhere
        cases found : lines (rest ++ [newline]) with
        | nil =>
            rw [found] at somewhere
            contradiction
        | cons line more => rfl

/-- An encoding of several octets has none of the plain ones among them. -/
theorem octets_beyond_plain {character : Char} (long : 127 < character.val.toNat) :
    ∀ octet ∈ String.utf8EncodeChar character, 128 ≤ octet.toNat := by
  rw [String.utf8EncodeChar, if_neg (by omega)]
  split_ifs
  all_goals
    simp only [List.forall_mem_cons, UInt8.toNat_ofNat', List.not_mem_nil, false_imp_iff,
      implies_true, and_true]
    omega

theorem count_newline_encoded (character : Char) :
    (String.utf8EncodeChar character).count newline = if character = '\n' then 1 else 0 := by
  by_cases short : character.val.toNat ≤ 127
  · have same : UInt8.ofNat character.val.toNat = newline ↔ character = '\n' := by
      rw [← UInt8.toNat_inj, UInt8.toNat_ofNat_of_lt' (Nat.lt_of_le_of_lt short (by decide)),
        Char.ext_iff, ← UInt32.toNat_inj]
      rfl
    rw [String.utf8EncodeChar, if_pos short, List.count_singleton]
    simp only [beq_iff_eq, same]
  · have other : character ≠ '\n' := by
      rintro rfl
      exact short (by decide)
    rw [if_neg other, List.count_eq_zero]
    intro member
    exact absurd (octets_beyond_plain (Nat.lt_of_not_le short) _ member) (by decide)

theorem count_newline_ofText (text : String) :
    (ofText text).count newline = text.toList.count '\n' := by
  rw [ofText]
  induction text.toList with
  | nil => rfl
  | cons character rest induction =>
      rw [List.flatMap_cons, List.count_append, induction, count_newline_encoded, List.count_cons,
        Nat.add_comm]
      simp only [beq_iff_eq]

end Bytes

open Bytes (newline)

variable {State : Type}

namespace Notice

/-- How often a value breaks the line in which it stands. -/
def breaks (value : String) : Nat := value.toList.count '\n'

def printedValues (contact : Contact) (reveal : Bool) : List String :=
  [contact.name.text, contact.email.text] ++ if reveal then [contact.apiKey.secret] else []

theorem breaks_append (first second : String) :
    breaks (first ++ second) = breaks first + breaks second := by
  rw [breaks, String.toList_append, List.count_append]
  rfl

/-- The newlines of a notice: its own, and those of its values where they are printed. -/
def lineBreaks (contact : Contact) (reveal : Bool) : Nat :=
  3 + 2 * breaks contact.name.text + 2 * breaks contact.email.text +
    if reveal then breaks contact.apiKey.secret else 0

theorem breaks_of_text (contact : Contact) (reveal : Bool) :
    breaks (spelledText contact reveal) = lineBreaks contact reveal := by
  have own : breaks "Processing " = 0 ∧ breaks " with email " = 0 ∧ breaks "\nAPI Key: " = 1 ∧
      breaks "[REDACTED]" = 0 ∧ breaks "\n" = 1 ∧ breaks "Sending to " = 0 ∧
      breaks " for " = 0 := by decide
  obtain ⟨processing, email, key, redacted, ending, sending, name⟩ := own
  delta spelledText spelledDetails spelledEmail lineBreaks
  simp only [breaks_append, processing, email, key, ending, sending, name]
  cases reveal with
  | false =>
      simp only [Bool.false_eq_true, if_false, redacted]
      omega
  | true =>
      simp only [if_true]
      omega

theorem lineBreaks_least_iff (contact : Contact) (reveal : Bool) :
    lineBreaks contact reveal = 3 ↔
      ∀ value ∈ printedValues contact reveal, '\n' ∉ value.toList := by
  have unbroken : ∀ value : String, breaks value = 0 ↔ '\n' ∉ value.toList := by
    intro value
    exact List.count_eq_zero
  rw [lineBreaks, printedValues]
  cases reveal with
  | false =>
      simp only [Bool.false_eq_true, if_false, List.append_nil, List.forall_mem_cons,
        List.not_mem_nil, false_imp_iff, implies_true, and_true, ← unbroken]
      omega
  | true =>
      simp only [if_true, List.cons_append, List.nil_append, List.forall_mem_cons,
        List.not_mem_nil, false_imp_iff, implies_true, and_true, ← unbroken]
      omega

/-- The two lines from which a contact is read again, behind what they begin with. -/
def keyLineRest (contact : Contact) : List Char := contact.apiKey.secret.toList

def emailLineRest (contact : Contact) : List Char :=
  contact.email.text.toList ++ ' ' :: ("for ".toList ++ contact.name.text.toList)

def firstLine (contact : Contact) : List Char :=
  "Processing ".toList ++
    (contact.name.text.toList ++ (" with email ".toList ++ contact.email.text.toList))

theorem revealed_text_in_lines (contact : Contact) :
    (spelledText contact true).toList =
      firstLine contact ++ '\n' :: ("API Key: ".toList ++ (keyLineRest contact ++
        '\n' :: ("Sending to ".toList ++ (emailLineRest contact ++ ['\n'])))) := by
  have key : "\nAPI Key: ".toList = '\n' :: "API Key: ".toList := by decide +kernel
  have name : " for ".toList = ' ' :: "for ".toList := by decide +kernel
  have ending : "\n".toList = ['\n'] := by decide +kernel
  delta spelledText spelledDetails spelledEmail firstLine keyLineRest emailLineRest
  simp only [if_true, String.toList_append, key, name, ending, List.append_assoc,
    List.cons_append, List.nil_append]

/-- What stands before the first separator is determined, and so is what stands behind it. -/
theorem parts_unique {separator : Char} {left right after later : List Char}
    (leftWhole : separator ∉ left) (rightWhole : separator ∉ right)
    (same : left ++ separator :: after = right ++ separator :: later) :
    left = right ∧ after = later := by
  induction left generalizing right with
  | nil =>
      cases right with
      | nil => exact ⟨rfl, (List.cons.inj same).2⟩
      | cons character right =>
          rw [(List.cons.inj same).1] at rightWhole
          exact absurd List.mem_cons_self rightWhole
  | cons character left induction =>
      cases right with
      | nil =>
          rw [(List.cons.inj same).1] at leftWhole
          exact absurd List.mem_cons_self leftWhole
      | cons other right =>
          obtain ⟨first, rest⟩ := List.cons.inj same
          rw [List.mem_cons, not_or] at leftWhole rightWhole
          obtain ⟨before, behind⟩ := induction leftWhole.2 rightWhole.2 rest
          exact ⟨by rw [first, before], behind⟩

/-- A contact that can be read from its notice: no printed value goes on in another line, and the
email has no space. -/
structure Legible (contact : Contact) : Prop where
  unbroken : ∀ value ∈ printedValues contact true, '\n' ∉ value.toList
  email_spaceless : ' ' ∉ contact.email.text.toList

namespace Legible

variable {contact : Contact} (legible : Legible contact)

include legible

theorem name_unbroken : '\n' ∉ contact.name.text.toList :=
  legible.unbroken _ (by simp [printedValues])

theorem email_unbroken : '\n' ∉ contact.email.text.toList :=
  legible.unbroken _ (by simp [printedValues])

theorem key_unbroken : '\n' ∉ contact.apiKey.secret.toList :=
  legible.unbroken _ (by simp [printedValues])

theorem firstLine_unbroken : '\n' ∉ firstLine contact := by
  have own : '\n' ∉ "Processing ".toList ∧ '\n' ∉ " with email ".toList := by decide +kernel
  delta firstLine
  simp only [List.mem_append, not_or]
  exact ⟨own.1, legible.name_unbroken, own.2, legible.email_unbroken⟩

theorem emailLineRest_unbroken : '\n' ∉ emailLineRest contact := by
  have own : '\n' ∉ "for ".toList := by decide +kernel
  delta emailLineRest
  simp only [List.mem_append, List.mem_cons, not_or]
  exact ⟨legible.email_unbroken, by decide, own, legible.name_unbroken⟩

end Legible

/-- The third line ends the email at its first blank and gives the name behind it; the second line
gives the key. -/
theorem revealed_text_injective {left right : Contact} (leftLegible : Legible left)
    (rightLegible : Legible right) (same : spelledText left true = spelledText right true) :
    left = right := by
  have characters := congrArg String.toList same
  rw [revealed_text_in_lines, revealed_text_in_lines] at characters
  obtain ⟨-, behind⟩ := parts_unique leftLegible.firstLine_unbroken
    rightLegible.firstLine_unbroken characters
  obtain ⟨keys, behind⟩ := parts_unique leftLegible.key_unbroken rightLegible.key_unbroken
    (List.append_cancel_left behind)
  obtain ⟨emailLines, -⟩ := parts_unique leftLegible.emailLineRest_unbroken
    rightLegible.emailLineRest_unbroken (List.append_cancel_left behind)
  obtain ⟨emails, behind⟩ := parts_unique leftLegible.email_spaceless
    rightLegible.email_spaceless emailLines
  have names := List.append_cancel_left behind
  obtain ⟨⟨leftEmail⟩, ⟨leftName⟩, ⟨leftKey⟩⟩ := left
  obtain ⟨⟨rightEmail⟩, ⟨rightName⟩, ⟨rightKey⟩⟩ := right
  obtain rfl : leftEmail = rightEmail := String.toList_inj.mp emails
  obtain rfl : leftName = rightName := String.toList_inj.mp names
  obtain rfl : leftKey = rightKey := String.toList_inj.mp keys
  rfl

theorem textBytes_ended (contact : Contact) (reveal : Bool) :
    ∃ before, textBytes contact reveal = before ++ [newline] := by
  have ending : Bytes.ofText "\n" = [newline] := by decide
  refine ⟨Bytes.ofText (spelledDetails contact reveal ++
    ("Sending to " ++ contact.email.text ++ " for " ++ contact.name.text)), ?_⟩
  rw [textBytes]
  delta spelledText spelledEmail
  simp only [Bytes.ofText_append, ending, List.append_assoc]

/-- The lines of a notice are counted by the newlines in what it prints, so that there are three
exactly if no printed value has one. With the key revealed, what was written tells legible contacts
apart, whatever sinks took it and in whatever pieces. -/
theorem output_shows_its_lines_and_fields :
    (∀ {State : Type} (sink : Sink State) (outlet : Outlet State) (contact : Contact)
      (reveal : Bool), sink.Willing →
      ∃ written : Bytes,
        (deliver sink outlet contact reveal).outcome = .ok () ∧
        (deliver sink outlet contact reveal).outlet.output = outlet.output ++ written ∧
        written.count newline =
          3 + 2 * breaks contact.name.text + 2 * breaks contact.email.text +
            (if reveal then breaks contact.apiKey.secret else 0) ∧
        (Bytes.lines written).length = written.count newline ∧
        ((Bytes.lines written).length = 3 ↔
          ∀ value ∈ printedValues contact reveal, '\n' ∉ value.toList)) ∧
    ∀ {LeftState RightState : Type} (leftSink : Sink LeftState) (rightSink : Sink RightState)
      (leftOutlet : Outlet LeftState) (rightOutlet : Outlet RightState) (left right : Contact),
      leftSink.Willing → rightSink.Willing → leftOutlet.output = rightOutlet.output →
      Legible left → Legible right →
      (deliver leftSink leftOutlet left true).outlet.output =
        (deliver rightSink rightOutlet right true).outlet.output →
      left.name = right.name ∧ left.email = right.email ∧ left.apiKey = right.apiKey := by
  constructor
  · intro State sink outlet contact reveal willing
    obtain ⟨state, delivered⟩ := deliver_on_willing_sink willing outlet contact reveal
    obtain ⟨before, ended⟩ := textBytes_ended contact reveal
    have counted : (textBytes contact reveal).count newline = lineBreaks contact reveal := by
      rw [textBytes, Bytes.count_newline_ofText, ← breaks_of_text]
      rfl
    have lines : (Bytes.lines (textBytes contact reveal)).length =
        (textBytes contact reveal).count newline := by
      rw [ended, Bytes.lines_of_ended]
    rw [delivered]
    refine ⟨textBytes contact reveal, rfl, rfl, counted, lines, ?_⟩
    rw [lines, counted, lineBreaks_least_iff]
  · intro LeftState RightState leftSink rightSink leftOutlet rightOutlet left right leftWilling
      rightWilling before leftLegible rightLegible same
    obtain ⟨leftState, leftDelivered⟩ := deliver_on_willing_sink leftWilling leftOutlet left true
    obtain ⟨rightState, rightDelivered⟩ :=
      deliver_on_willing_sink rightWilling rightOutlet right true
    rw [leftDelivered, rightDelivered, Outlet.extended_output, Outlet.extended_output,
      before] at same
    have written := List.append_cancel_left same
    rw [textBytes, textBytes] at written
    obtain rfl := revealed_text_injective leftLegible rightLegible (Bytes.ofText_injective written)
    exact ⟨rfl, rfl, rfl⟩

def sparing : Sink Unit where
  write := fun state bytes => (.taken (min 1 bytes.length), state)
  flush := fun state => (none, state)
  patience := fun _ => 0
  patience_lt := by
    intro state bytes after answered
    cases answered

theorem sparing_willing : sparing.Willing := by
  refine ⟨?_, ?_, ?_⟩
  · intro state after offered asked answered
    have nothing : SinkAnswer.taken (min 1 offered.length) = .taken 0 := congrArg Prod.fst answered
    rw [SinkAnswer.taken.injEq] at nothing
    have something := List.length_pos_iff.mpr asked
    omega
  · intro state after offered error asked answered
    cases answered
  · intro state
    rfl

def brokenContact : Contact := ⟨⟨"ada@example.com"⟩, ⟨"Ada\nLovelace"⟩, ⟨"key\n"⟩⟩

/-- A contact whose name imitates the words around it. -/
def wordyContact : Contact := ⟨⟨"ada@example.com"⟩, ⟨"Ada with email x for Ada"⟩, ⟨"key"⟩⟩

def wordyNotice : String :=
  "Processing Ada with email x for Ada with email ada@example.com\n"
    ++ "API Key: key\n"
    ++ "Sending to ada@example.com for Ada with email x for Ada\n"

theorem wordy_notice_spelled : textBytes wordyContact true = Bytes.ofText wordyNotice := by
  have spelled : spelledText wordyContact true = wordyNotice := by
    delta spelledText spelledDetails spelledEmail wordyNotice
    decide +kernel
  rw [textBytes, spelled]

/-- A notice that was taken octet by octet, and whose it is, whoever else may have printed it. -/
theorem wordy_contact_is_read_from_any_pieces :
    sparing.Willing ∧
      (∃ written,
        (deliver sparing (.start ()) brokenContact true).outlet.output = written ∧
          (Bytes.lines written).length = 6) ∧
      Legible wordyContact ∧
      (deliver sparing (.start ()) wordyContact true).outlet.output = Bytes.ofText wordyNotice ∧
      ∀ contact, Legible contact →
        (deliver Sink.accepting (.start ()) contact true).outlet.output =
          Bytes.ofText wordyNotice →
        contact.name = ⟨"Ada with email x for Ada"⟩ ∧ contact.email = ⟨"ada@example.com"⟩ ∧
          contact.apiKey = ⟨"key"⟩ := by
  obtain ⟨lines, fields⟩ := output_shows_its_lines_and_fields
  obtain ⟨written, _, output, count, sizes, _⟩ :=
    lines sparing (.start ()) brokenContact true sparing_willing
  have legible : Legible wordyContact := by
    constructor
    · decide +kernel
    · decide +kernel
  have spared : (deliver sparing (.start ()) wordyContact true).outlet.output =
      Bytes.ofText wordyNotice := by
    obtain ⟨_, delivered⟩ := deliver_on_willing_sink sparing_willing (.start ()) wordyContact true
    rw [delivered, Outlet.extended_output, wordy_notice_spelled]
    exact List.nil_append _
  refine ⟨sparing_willing, ⟨written, output, ?_⟩, legible, spared, ?_⟩
  · rw [sizes, count]
    decide
  · intro contact printed same
    exact fields Sink.accepting sparing (.start ()) (.start ()) contact wordyContact
      Sink.accepting_willing sparing_willing rfl printed legible (same.trans spared.symm)

/-- With blanks in an email two contacts can have the same notice. -/
example : spelledText ⟨⟨"e"⟩, ⟨"n with email e for n"⟩, ⟨"key"⟩⟩ true =
    spelledText ⟨⟨"e for n with email e"⟩, ⟨"n"⟩, ⟨"key"⟩⟩ true := by decide

end Notice
end CustomerNotice
