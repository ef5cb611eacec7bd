import ActiveObjects.Json.Parser
import ActiveObjects.Proofs.Json.Tokens

/-!
# Values written and read

The tokens of a value are put together to the tree that says just this value. So a value is read
back from its text.
-/

namespace ActiveObjects.Json

namespace Tree

theorem ofValues_eq_map (items : List Json) : ofValues items = items.map ofValue := by
  induction items with
  | nil => rfl
  | cons item items ih => rw [ofValues, ih, List.map_cons]

end Tree

namespace Parser

variable {stack : List Frame}

/-- Where a value is expected, the tokens are put together to its tree. -/
def Builds (j : Json) : Prop :=
  ∀ stack, j.tokens.foldlM step? (.value stack) = some (.done (.ofValue j) stack)

/-- A value does not start with the end of an array. -/
theorem foldlM_arrayStart (j : Json) (stack : List Frame) :
    j.tokens.foldlM step? (.arrayStart stack) =
      j.tokens.foldlM step? (.value (.array [] :: stack)) := by
  cases j with
  | array items => cases items <;> rfl
  | object fields => cases fields <;> rfl
  | _ => rfl

theorem foldlM_itemTokens {more : List Json} (h : ∀ item ∈ more, Builds item) (t : Tree)
    (before : List Tree) :
    (itemTokens more).foldlM step? (.done t (.array before :: stack)) =
      some (.done (.array ((t :: before).reverse ++ Tree.ofValues more)) stack) := by
  induction more generalizing t before with
  | nil => simp [itemTokens, step?, Tree.ofValues]
  | cons item more ih =>
    have comma : step? (.done t (.array before :: stack)) .comma =
        some (.value (.array (t :: before) :: stack)) := rfl
    rw [itemTokens, List.foldlM_cons, comma, Option.bind_eq_bind, Option.bind_some,
      List.foldlM_append, h item (List.mem_cons_self ..), Option.bind_eq_bind, Option.bind_some,
      ih fun other ho => h other (List.mem_cons_of_mem _ ho)]
    simp [Tree.ofValues]

theorem foldlM_fieldTokens {more : List (String × Json)} (h : ∀ field ∈ more, Builds field.2)
    (t : Tree) (before : List (Quoted × Tree)) (key : Quoted) :
    (fieldTokens more).foldlM step? (.done t (.object before key :: stack)) =
      some (.done (.object (((key, t) :: before).reverse ++ Tree.ofFieldValues more)) stack) := by
  induction more generalizing t before key with
  | nil => simp [fieldTokens, step?, Tree.ofFieldValues]
  | cons field more ih =>
    obtain ⟨name, value⟩ := field
    have named : [Token.comma, .string (.text name), .colon].foldlM step?
        (.done t (.object before key :: stack)) =
          some (.value (.object ((key, t) :: before) (.text name) :: stack)) := rfl
    have split : fieldTokens ((name, value) :: more) =
        [Token.comma, .string (.text name), .colon] ++ (value.tokens ++ fieldTokens more) := by
      simp [fieldTokens]
    rw [split, List.foldlM_append, named, Option.bind_eq_bind, Option.bind_some,
      List.foldlM_append, h (name, value) (List.mem_cons_self ..), Option.bind_eq_bind,
      Option.bind_some, ih fun other ho => h other (List.mem_cons_of_mem _ ho)]
    simp [Tree.ofFieldValues]

theorem builds_of_exact {j : Json} (h : j.Exact) : Builds j := by
  induction h with
  | null => exact fun _ => rfl
  | bool b => exact fun _ => rfl
  | number hn => exact fun _ => rfl
  | string s => exact fun _ => rfl
  | @array items hi ih =>
    intro stack
    cases items with
    | nil => rfl
    | cons item more =>
      have opens : step? (.value stack) .openArray = some (.arrayStart stack) := rfl
      rw [tokens, List.foldlM_cons, opens, Option.bind_eq_bind, Option.bind_some,
        List.foldlM_append, foldlM_arrayStart, ih item (List.mem_cons_self ..),
        Option.bind_eq_bind, Option.bind_some,
        foldlM_itemTokens fun other ho => ih other (List.mem_cons_of_mem _ ho)]
      simp [Tree.ofValue, Tree.ofValues]
  | @object fields hf ih =>
    intro stack
    cases fields with
    | nil => rfl
    | cons field more =>
      obtain ⟨name, value⟩ := field
      have named : [Token.openObject, .string (.text name), .colon].foldlM step? (.value stack) =
          some (.value (.object [] (.text name) :: stack)) := rfl
      have split : (Json.object ((name, value) :: more)).tokens =
          [Token.openObject, .string (.text name), .colon] ++
            (value.tokens ++ fieldTokens more) := by
        simp [tokens]
      rw [split, List.foldlM_append, named, Option.bind_eq_bind, Option.bind_some,
        List.foldlM_append, ih (name, value) (List.mem_cons_self ..), Option.bind_eq_bind,
        Option.bind_some,
        foldlM_fieldTokens fun other ho => ih other (List.mem_cons_of_mem _ ho)]
      simp [Tree.ofValue, Tree.ofFieldValues]

end Parser

/-- A value is read back from its text. -/
theorem Tree.parse?_render {j : Json} (h : j.Exact) :
    Tree.parse? (render j) = some (.ofValue j) := by
  rw [Tree.parse?, tokens?_render h, Option.bind_eq_bind, Option.bind_some,
    Parser.builds_of_exact h []]
  rfl

end ActiveObjects.Json
