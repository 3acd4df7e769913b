import CustomerNotice.Log.Installation

/-!
# Who fills the slots of a process

Other code may fill the slot of the facade or that of the listener before or after the program
does. A slot that is filled stays with whoever filled it, so the program can install its listener
only in a process in which nothing was installed. Where the listener is refused although the facade
was free, the facade has been filled all the same: its slot is the first and cannot be emptied.
-/

namespace CustomerNotice

/-- A logger in the slot of the facade: the one that hands everything to the listener, or one of
other code. -/
inductive Logger (Foreign : Type)
  | bridge
  | foreign (logger : Foreign)
  deriving DecidableEq, Repr

/-- What happens to the slots: the program installs a listener, or other code fills one slot. -/
inductive Move (Foreign Subscriber : Type)
  | install (subscriber : Subscriber)
  | setLogger (logger : Logger Foreign)
  | setSubscriber (subscriber : Subscriber)

/-- The slots of a process, and whose the logger and the subscriber in them are. -/
structure Process (Foreign Subscriber : Type) where
  installation : Installation
  logger? : Option (Logger Foreign)
  subscriber? : Option Subscriber

namespace Process

variable {Foreign Subscriber : Type}

def start : Process Foreign Subscriber := ⟨.empty, none, none⟩

/-- Who is in a slot after something was done: nobody if it is not taken, and a newcomer only if
nobody was there before. -/
def occupant {Occupant : Type} (before? : Option Occupant) (taken : Bool) (newcomer : Occupant) :
    Option Occupant :=
  if taken then some (before?.getD newcomer) else none

/-- Subscribers of all kinds may take part; `listens` is what there is to a subscriber as a
listener. -/
def advance (listens : Subscriber → Listener) (process : Process Foreign Subscriber) :
    Move Foreign Subscriber → Except InstallError Unit × Process Foreign Subscriber
  | .install subscriber =>
      let (result, installation) := process.installation.install (listens subscriber)
      (result,
        { installation
          logger? := occupant process.logger? installation.facade .bridge
          subscriber? := occupant process.subscriber? installation.listener?.isSome subscriber })
  | .setLogger logger =>
      match process.installation.setFacade with
      | none => (.error .facadeTaken, process)
      | some installation => (.ok (), { process with installation, logger? := some logger })
  | .setSubscriber subscriber =>
      match process.installation.setListener (listens subscriber) with
      | none => (.error .listenerTaken, process)
      | some installation => (.ok (), { process with installation, subscriber? := some subscriber })

variable {listens : Subscriber → Listener} {process : Process Foreign Subscriber}

/-- A slot is filled exactly if somebody is in it. -/
structure Sound (listens : Subscriber → Listener) (process : Process Foreign Subscriber) :
    Prop where
  facade : process.installation.facade = process.logger?.isSome
  listener : process.installation.listener? = process.subscriber?.map listens

/-- The ways in which a move ends. -/
inductive Ends (listens : Subscriber → Listener) (process : Process Foreign Subscriber) :
    Move Foreign Subscriber → Except InstallError Unit → Process Foreign Subscriber → Prop
  | installed {subscriber : Subscriber} (loggerFree : process.logger? = none)
      (subscriberFree : process.subscriber? = none) :
      Ends listens process (.install subscriber) (.ok ())
        ⟨⟨true, some (listens subscriber)⟩, some .bridge, some subscriber⟩
  | facadeTaken {subscriber : Subscriber} {logger : Logger Foreign}
      (taken : process.logger? = some logger) :
      Ends listens process (.install subscriber) (.error .facadeTaken) process
  | listenerTaken {subscriber other : Subscriber} (loggerFree : process.logger? = none)
      (taken : process.subscriber? = some other) :
      Ends listens process (.install subscriber) (.error .listenerTaken)
        ⟨⟨true, some (listens other)⟩, some .bridge, some other⟩
  | loggerSet {logger : Logger Foreign} (free : process.logger? = none) :
      Ends listens process (.setLogger logger) (.ok ())
        ⟨⟨true, process.installation.listener?⟩, some logger, process.subscriber?⟩
  | loggerRefused {logger other : Logger Foreign} (taken : process.logger? = some other) :
      Ends listens process (.setLogger logger) (.error .facadeTaken) process
  | subscriberSet {subscriber : Subscriber} (free : process.subscriber? = none) :
      Ends listens process (.setSubscriber subscriber) (.ok ())
        ⟨⟨process.installation.facade, some (listens subscriber)⟩, process.logger?,
          some subscriber⟩
  | subscriberRefused {subscriber other : Subscriber}
      (taken : process.subscriber? = some other) :
      Ends listens process (.setSubscriber subscriber) (.error .listenerTaken) process

theorem advance_ends (sound : Sound listens process) (move : Move Foreign Subscriber) :
    Ends listens process move (process.advance listens move).1
      (process.advance listens move).2 := by
  obtain ⟨⟨facade, listener?⟩, logger?, subscriber?⟩ := process
  obtain ⟨filled, heard⟩ := sound
  dsimp only at filled heard
  subst filled heard
  cases move with
  | install subscriber =>
      cases logger? with
      | some logger =>
          cases subscriber? with
          | some other => exact .facadeTaken rfl
          | none => exact .facadeTaken rfl
      | none =>
          cases subscriber? with
          | some other => exact .listenerTaken rfl rfl
          | none => exact .installed rfl rfl
  | setLogger logger =>
      cases logger? with
      | some other => exact .loggerRefused rfl
      | none => exact .loggerSet rfl
  | setSubscriber subscriber =>
      cases subscriber? with
      | some other => exact .subscriberRefused rfl
      | none => exact .subscriberSet rfl

theorem start_sound : Sound listens (start : Process Foreign Subscriber) := ⟨rfl, rfl⟩

section

variable {move : Move Foreign Subscriber} {result : Except InstallError Unit}
  {after : Process Foreign Subscriber} (ends : Ends listens process move result after)

include ends

theorem Ends.sound (sound : Sound listens process) : Sound listens after := by
  cases ends with
  | installed loggerFree subscriberFree => exact ⟨rfl, rfl⟩
  | facadeTaken taken => exact sound
  | listenerTaken loggerFree taken => exact ⟨rfl, rfl⟩
  | loggerSet free => exact ⟨rfl, sound.listener⟩
  | loggerRefused taken => exact sound
  | subscriberSet free => exact ⟨sound.facade, rfl⟩
  | subscriberRefused taken => exact sound

theorem Ends.keeps_logger {logger : Logger Foreign} (held : process.logger? = some logger) :
    after.logger? = some logger := by
  cases ends with
  | installed loggerFree subscriberFree => rw [held] at loggerFree; contradiction
  | facadeTaken taken => exact held
  | listenerTaken loggerFree taken => rw [held] at loggerFree; contradiction
  | loggerSet free => rw [held] at free; contradiction
  | loggerRefused taken => exact held
  | subscriberSet free => exact held
  | subscriberRefused taken => exact held

theorem Ends.keeps_subscriber {subscriber : Subscriber}
    (held : process.subscriber? = some subscriber) : after.subscriber? = some subscriber := by
  cases ends with
  | installed loggerFree subscriberFree => rw [held] at subscriberFree; contradiction
  | facadeTaken taken => exact held
  | listenerTaken loggerFree taken => exact taken ▸ held
  | loggerSet free => exact held
  | loggerRefused taken => exact held
  | subscriberSet free => rw [held] at free; contradiction
  | subscriberRefused taken => exact held

/-- After any move there is somebody in one of the slots. -/
theorem Ends.occupied : after.logger? ≠ none ∨ after.subscriber? ≠ none := by
  cases ends with
  | installed loggerFree subscriberFree => exact .inl (Option.some_ne_none _)
  | facadeTaken taken => exact .inl (taken ▸ Option.some_ne_none _)
  | listenerTaken loggerFree taken => exact .inl (Option.some_ne_none _)
  | loggerSet free => exact .inl (Option.some_ne_none _)
  | loggerRefused taken => exact .inl (taken ▸ Option.some_ne_none _)
  | subscriberSet free => exact .inr (Option.some_ne_none _)
  | subscriberRefused taken => exact .inr (taken ▸ Option.some_ne_none _)

end

def after (listens : Subscriber → Listener) (process : Process Foreign Subscriber)
    (moves : List (Move Foreign Subscriber)) : Process Foreign Subscriber :=
  moves.foldl (fun process move => (process.advance listens move).2) process

/-- What keeps through every move keeps through a history. -/
theorem after_keeps {kept : Process Foreign Subscriber → Prop}
    (step : ∀ {process move}, Sound listens process → kept process →
      kept (process.advance listens move).2)
    (moves : List (Move Foreign Subscriber)) (sound : Sound listens process)
    (holds : kept process) : kept (process.after listens moves) := by
  induction moves generalizing process with
  | nil => exact holds
  | cons move later induction =>
      exact induction ((advance_ends sound move).sound sound) (step sound holds)

theorem after_sound (moves : List (Move Foreign Subscriber)) (sound : Sound listens process) :
    Sound listens (process.after listens moves) :=
  after_keeps (fun sound _ => (advance_ends sound _).sound sound) moves sound sound

theorem after_keeps_logger {logger : Logger Foreign} (moves : List (Move Foreign Subscriber))
    (sound : Sound listens process) (held : process.logger? = some logger) :
    (process.after listens moves).logger? = some logger :=
  after_keeps (fun sound held => (advance_ends sound _).keeps_logger held) moves sound held

theorem after_keeps_subscriber {subscriber : Subscriber}
    (moves : List (Move Foreign Subscriber)) (sound : Sound listens process)
    (held : process.subscriber? = some subscriber) :
    (process.after listens moves).subscriber? = some subscriber :=
  after_keeps (fun sound held => (advance_ends sound _).keeps_subscriber held) moves sound held

/-- Where something was done there is somebody in one of the slots. -/
theorem after_occupied {moves : List (Move Foreign Subscriber)} (done : moves ≠ [])
    (sound : Sound listens process) :
    (process.after listens moves).logger? ≠ none ∨
      (process.after listens moves).subscriber? ≠ none := by
  cases moves with
  | nil => contradiction
  | cons move later =>
      have first := advance_ends sound move
      rcases first.occupied with occupied | occupied
      · obtain ⟨logger, held⟩ := Option.ne_none_iff_exists'.mp occupied
        exact .inl (after_keeps_logger later (first.sound sound) held ▸ Option.some_ne_none _)
      · obtain ⟨subscriber, held⟩ := Option.ne_none_iff_exists'.mp occupied
        exact .inr (after_keeps_subscriber later (first.sound sound) held ▸ Option.some_ne_none _)

theorem Ends.both_filled {subscriber : Subscriber} {after : Process Foreign Subscriber}
    (ends : Ends listens process (.install subscriber) (.ok ()) after) :
    after.logger? = some .bridge ∧ after.subscriber? = some subscriber := by
  cases ends with
  | installed loggerFree subscriberFree => exact ⟨rfl, rfl⟩

/-- An installation that fails leaves the subscriber, and the logger where there is one. Where there
is none it was the subscriber that was refused, and the program's own logger is left behind. -/
theorem Ends.left_behind {subscriber : Subscriber} {error : InstallError}
    {after : Process Foreign Subscriber}
    (ends : Ends listens process (.install subscriber) (.error error) after) :
    after.subscriber? = process.subscriber? ∧
      (process.logger? ≠ none → error = .facadeTaken ∧ after.logger? = process.logger?) ∧
      (process.logger? = none → process.subscriber? ≠ none ∧ error = .listenerTaken ∧
        after.logger? = some .bridge) := by
  cases ends with
  | facadeTaken taken =>
      refine ⟨rfl, fun _ => ⟨rfl, rfl⟩, ?free⟩
      case free =>
        intro free
        rw [free] at taken
        contradiction
  | listenerTaken loggerFree taken =>
      exact ⟨taken.symm, fun held => absurd loggerFree held,
        fun _ => ⟨taken ▸ Option.some_ne_none _, rfl, rfl⟩⟩

theorem install_succeeds_iff (sound : Sound listens process) (subscriber : Subscriber) :
    (process.advance listens (.install subscriber)).1 = .ok () ↔
      process.logger? = none ∧ process.subscriber? = none := by
  have ends := advance_ends sound (.install subscriber)
  generalize process.advance listens (.install subscriber) = call at ends ⊢
  obtain ⟨result, after⟩ := call
  dsimp only at ends ⊢
  cases ends with
  | installed loggerFree subscriberFree => simp [loggerFree, subscriberFree]
  | facadeTaken taken => simp [taken]
  | listenerTaken loggerFree taken => simp [taken]

theorem first_install_succeeds_iff (before : List (Move Foreign Subscriber))
    (subscriber : Subscriber) :
    ((start.after listens before).advance listens (.install subscriber)).1 = .ok () ↔
      before = [] := by
  rw [install_succeeds_iff (after_sound before start_sound)]
  constructor
  · rintro ⟨loggerFree, subscriberFree⟩
    apply Classical.byContradiction
    intro done
    rcases after_occupied done start_sound with occupied | occupied
    · exact occupied loggerFree
    · exact occupied subscriberFree
  · rintro rfl
    exact ⟨rfl, rfl⟩

/-- An installation succeeds exactly if nothing was installed, which is only before everything
else, and then both slots are the program's. A failed one leaves the subscriber in place, and the
logger as well where there was one. Where there was none it was the subscriber that was refused,
and the program's own logger stays behind. Nobody leaves a slot, and no second installation
succeeds. -/
theorem failed_installation_may_leave_a_logger (listens : Subscriber → Listener)
    (before : List (Move Foreign Subscriber)) (subscriber : Subscriber) :
    let process := start.after listens before
    let call := process.advance listens (.install subscriber)
    (process.installation.facade = process.logger?.isSome ∧
      process.installation.listener? = process.subscriber?.map listens) ∧
    (call.1 = .ok () ↔ process.logger? = none ∧ process.subscriber? = none) ∧
    (call.1 = .ok () ↔ before = []) ∧
    (call.1 = .ok () →
      call.2.logger? = some .bridge ∧ call.2.subscriber? = some subscriber ∧
      ∀ (between : List (Move Foreign Subscriber)) (other : Subscriber),
        ((call.2.after listens between).advance listens (.install other)).1 ≠ .ok ()) ∧
    (∀ error, call.1 = .error error →
      call.2.subscriber? = process.subscriber? ∧
      (process.logger? ≠ none → error = .facadeTaken ∧ call.2.logger? = process.logger?) ∧
      (process.logger? = none → process.subscriber? ≠ none ∧ error = .listenerTaken ∧
        call.2.logger? = some .bridge)) ∧
    ∀ later : List (Move Foreign Subscriber),
      (∀ logger, process.logger? = some logger →
        (process.after listens later).logger? = some logger) ∧
      ∀ holder, process.subscriber? = some holder →
        (process.after listens later).subscriber? = some holder := by
  intro process call
  have sound : Sound listens process := after_sound before start_sound
  have ends := advance_ends sound (.install subscriber)
  refine ⟨⟨sound.facade, sound.listener⟩, install_succeeds_iff sound subscriber,
    first_install_succeeds_iff before subscriber, ?success, ?failure, ?lasting⟩
  case success =>
    intro succeeded
    rw [show (process.advance listens (.install subscriber)).1 = .ok () from succeeded] at ends
    obtain ⟨bridged, held⟩ := ends.both_filled
    refine ⟨bridged, held, ?_⟩
    intro between other again
    have still := after_keeps_logger between (ends.sound sound) bridged
    have free := ((install_succeeds_iff (after_sound between (ends.sound sound)) other).mp again).1
    rw [still] at free
    contradiction
  case failure =>
    intro error failed
    rw [show (process.advance listens (.install subscriber)).1 = .error error from failed] at ends
    exact ends.left_behind
  case lasting =>
    intro later
    exact ⟨fun _ held => after_keeps_logger later sound held,
      fun _ held => after_keeps_subscriber later sound held⟩

def someListener (name : String) : Listener := ⟨name, ⟨[], .words⟩⟩

/-- A subscriber of other code, and then an installation: it fails, and yet the slot of the facade
is filled after it, which was free before. -/
theorem refused_subscriber_leaves_the_bridge :
    let process := (start : Process Unit Listener).after id [.setSubscriber (someListener "other")]
    let call := process.advance id (.install (someListener "own"))
    call.1 = .error .listenerTaken ∧ process.logger? = none ∧ call.2.logger? = some .bridge ∧
      ¬∀ (before : List (Move Unit Listener)) (subscriber : Listener) (error : InstallError),
        ((start.after id before).advance id (.install subscriber)).1 = .error error →
        ((start.after id before).advance id (.install subscriber)).2.logger? =
            (start.after id before).logger? ∧
          ((start.after id before).advance id (.install subscriber)).2.subscriber? =
            (start.after id before).subscriber? := by
  refine ⟨rfl, rfl, rfl, ?_⟩
  intro unchanged
  have same := (unchanged [.setSubscriber (someListener "other")] (someListener "own")
    .listenerTaken rfl).1
  contradiction

end Process
end CustomerNotice
