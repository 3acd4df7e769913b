import CustomerNotice.Configuration
import CustomerNotice.Proofs.Text.Quoting

/-!
# What a debug text tells

The debug texts of customers and of configurations put quoted texts between words that never
change. As a quoted text cannot be mistaken for what comes after it, each field can be read back,
whatever it holds and whatever it imitates. Only the key is not in them.
-/

namespace CustomerNotice

/-- What stands quoted behind the same words is told apart from what comes after it. -/
theorem quoted_behind_words {words left right after later : String} :
    words ++ (Text.quoted left ++ after) = words ++ (Text.quoted right ++ later) ↔
      left = right ∧ after = later := by
  rw [String.append_right_inj, Text.quoted_append_inj]

theorem wrapped_behind_words {words label left right after later : String} :
    words ++ (wrapped label (Text.quoted left) ++ after) =
        words ++ (wrapped label (Text.quoted right) ++ later) ↔
      left = right ∧ after = later := by
  simp only [wrapped, String.append_assoc]
  rw [String.append_right_inj, String.append_right_inj, quoted_behind_words,
    String.append_right_inj]

/-- Everything but the key is read off the debug text of a customer. -/
theorem Customer.debug_eq_iff (left right : Customer) :
    left.debug = right.debug ↔
      left.id = right.id ∧ left.email = right.email ∧ left.name = right.name := by
  obtain ⟨⟨⟨email⟩, ⟨name⟩, key⟩, ⟨id⟩⟩ := left
  obtain ⟨⟨⟨other_email⟩, ⟨other_name⟩, other_key⟩, ⟨other_id⟩⟩ := right
  unfold Customer.debug
  simp only [String.append_assoc]
  unfold CustomerId.debug CustomerEmail.debug CustomerName.debug
  rw [wrapped_behind_words, wrapped_behind_words, wrapped_behind_words]
  simp [ApiKey.debug]

namespace Configuration

theorem boolText_inj {left right : Bool} : boolText left = boolText right ↔ left = right := by
  cases left <;> cases right <;> decide

/-- Everything but the key is read off the debug text of a configuration. -/
theorem debug_eq_iff (left right : Configuration) :
    left.debug = right.debug ↔
      left.application.name = right.application.name ∧
        left.application.logLevel = right.application.logLevel ∧
        left.customer.id = right.customer.id ∧ left.customer.email = right.customer.email ∧
        left.customer.name = right.customer.name ∧
        left.output.revealApiKey = right.output.revealApiKey := by
  unfold debug
  simp only [String.append_assoc]
  rw [quoted_behind_words, quoted_behind_words, quoted_behind_words, quoted_behind_words,
    quoted_behind_words]
  rw [String.append_right_inj, String.append_right_inj, String.append_right_inj,
    String.append_left_inj, boolText_inj]

/-- Two debug texts are the same exactly if all fields but the key are. -/
theorem debug_text_hides_the_key_alone :
    (∀ left right : Customer, left.debug = right.debug ↔
      left.id = right.id ∧ left.email = right.email ∧ left.name = right.name) ∧
    ∀ left right : Configuration, left.debug = right.debug ↔
      left.application.name = right.application.name ∧
        left.application.logLevel = right.application.logLevel ∧
        left.customer.id = right.customer.id ∧ left.customer.email = right.customer.email ∧
        left.customer.name = right.customer.name ∧
        left.output.revealApiKey = right.output.revealApiKey :=
  ⟨Customer.debug_eq_iff, debug_eq_iff⟩

/-- A name that imitates what comes before it forges no other customer. -/
example :
    (Customer.new "7" "a\"), customer_name: CustomerName(\"b" "c" "k").debug ≠
      (Customer.new "7" "a" "b\"), customer_name: CustomerName(\"c" "k").debug := by
  rw [Ne, Customer.debug_eq_iff]
  decide

end Configuration
end CustomerNotice
