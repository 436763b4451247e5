import HandlerRouting.MediaType.Segments
import HandlerRouting.MediaType.Parameter
import HandlerRouting.MediaType.Written

/-!
Which media types can be read back from their written form. Writing puts a backslash before a
double quote but not before a backslash, and takes every token for a value that needs no quotes;
reading takes apostrophes for quotes and looks a charset up again.
-/

namespace HandlerRouting.MediaType

open Text

structure ReadsBack (m : MediaType) : Prop where
  /-- No value that is written without quotes looks like one within apostrophes. -/
  bare : ∀ parameter ∈ m.parameters,
    isToken parameter.2 = true → quotedContent? parameter.2 = none
  /-- No semicolon splits a written value. -/
  whole : ∀ parameter ∈ m.parameters, (segments (writeValue parameter.2)).2 = []
  /-- The quotes of every value but the last are closed where its written form ends. -/
  closed : ∀ parameter ∈ m.parameters.dropLast,
    Position.outside.afterText (writeValue parameter.2) = .outside
  /-- The charset is known by its lower-case name, too. -/
  charset : ∀ value, m.parameters.lookup charsetName = some value → isKnownCharset value = true

instance (m : MediaType) : Decidable (ReadsBack m) :=
  decidable_of_iff
    ((∀ parameter ∈ m.parameters,
        isToken parameter.2 = true → quotedContent? parameter.2 = none) ∧
      (∀ parameter ∈ m.parameters, (segments (writeValue parameter.2)).2 = []) ∧
      (∀ parameter ∈ m.parameters.dropLast,
        Position.outside.afterText (writeValue parameter.2) = .outside) ∧
      ∀ value ∈ m.parameters.lookup charsetName, isKnownCharset value = true)
    ⟨fun ⟨bare, whole, closed, charset⟩ => ⟨bare, whole, closed, charset⟩,
      fun ⟨bare, whole, closed, charset⟩ => ⟨bare, whole, closed, charset⟩⟩

/-- A backslash at the end of a value hides the quote behind it, and a semicolon goes unseen. -/
example : ¬ ReadsBack ⟨['a'], ['b'], [(['x'], ['(', '\\']), (['y'], ['z'])]⟩ := by decide

end HandlerRouting.MediaType
