/-!
# Patterns in texts

A pattern matches beginnings of a text in an order of preference: each repetition goes on as long as
it can, and gives back the last of what it took first when the rest does not match. What a pattern
finds in a text is the match that it prefers, at the first place where it matches at all.
-/
namespace Testbed.Text

/-- A pattern whose matches have at least one character. -/
inductive Pattern where
  | one (accepts : Char → Bool)
  | seq (first second : Pattern)
  /-- Once or more often, as often as possible. -/
  | plus (body : Pattern)

namespace Pattern

/-- What each match at the beginning of a text leaves of it, the preferred matches first. -/
def leaves : Pattern → (text : List Char) → List { left : List Char // left.length < text.length }
  | one _, [] => []
  | one accepts, c :: rest => if accepts c then [⟨rest, Nat.lt_succ_self _⟩] else []
  | seq first second, text =>
    (first.leaves text).flatMap fun middle =>
      (second.leaves middle.1).map fun left => ⟨left.1, Nat.lt_trans left.2 middle.2⟩
  | plus body, text =>
    (body.leaves text).flatMap fun middle =>
      ((plus body).leaves middle.1).map (fun left => ⟨left.1, Nat.lt_trans left.2 middle.2⟩) ++
        [middle]
termination_by p text => (p, text.length)

/-- The same, without the reason why the recursion ends. -/
def ends (p : Pattern) (text : List Char) : List (List Char) := (p.leaves text).map Subtype.val

/-- What a pattern finds in a text. -/
def find (p : Pattern) : List Char → Option (List Char)
  | [] => none
  | c :: rest =>
    match (p.ends (c :: rest)).head? with
    | some left => some ((c :: rest).take ((c :: rest).length - left.length))
    | none => find p rest

section Ends

variable (accepts : Char → Bool) (p q : Pattern) (c : Char) (rest text : List Char)

@[simp]
theorem ends_one_nil : (one accepts).ends [] = [] := by
  simp [ends, leaves]

@[simp]
theorem ends_one_cons : (one accepts).ends (c :: rest) = if accepts c then [rest] else [] := by
  rw [ends, leaves]
  split <;> rfl

theorem ends_seq : (seq p q).ends text = (p.ends text).flatMap q.ends := by
  simp only [ends, leaves, List.map_flatMap, List.map_map, List.flatMap_map]
  rfl

theorem ends_plus :
    (plus p).ends text = (p.ends text).flatMap (fun left => (plus p).ends left ++ [left]) := by
  rw [ends, leaves]
  simp only [ends, List.map_flatMap, List.map_append, List.map_map, List.flatMap_map]
  rfl

theorem ends_plus_eq_nil {p : Pattern} {text : List Char} (none : p.ends text = []) :
    (plus p).ends text = [] := by
  rw [ends_plus, none, List.flatMap_nil]

theorem ends_plus_one_eq_nil {text : List Char} (stops : ∀ c ∈ text.head?, accepts c = false) :
    (plus (one accepts)).ends text = [] := by
  refine ends_plus_eq_nil ?_
  cases text with
  | nil => exact ends_one_nil accepts
  | cons c rest => rw [ends_one_cons, stops c rfl, if_neg Bool.false_ne_true]

/-- Repeating a character goes to the end of the run first; what it gives back is of the run. -/
theorem ends_plus_run {run rest : List Char} (nonempty : run ≠ [])
    (all : ∀ c ∈ run, accepts c = true) (stops : ∀ c ∈ rest.head?, accepts c = false) :
    ∃ others, (plus (one accepts)).ends (run ++ rest) = rest :: others ∧
      ∀ left ∈ others, ∃ c ∈ left.head?, accepts c = true := by
  induction run with
  | nil => exact absurd rfl nonempty
  | cons c run ih =>
    obtain ⟨accepted, later⟩ := List.forall_mem_cons.1 all
    have once : (plus (one accepts)).ends (c :: (run ++ rest)) =
        (plus (one accepts)).ends (run ++ rest) ++ [run ++ rest] := by
      rw [ends_plus, ends_one_cons, if_pos accepted, List.flatMap_singleton]
    rw [List.cons_append, once]
    cases run with
    | nil => exact ⟨[], by rw [List.nil_append, ends_plus_one_eq_nil accepts stops]; rfl, nofun⟩
    | cons d run =>
      obtain ⟨others, ends, given⟩ := ih (List.cons_ne_nil _ _) later
      refine ⟨others ++ [d :: run ++ rest], by rw [ends]; rfl, fun left member => ?_⟩
      obtain earlier | rfl := List.mem_append.1 member |>.imp_right List.mem_singleton.1
      · exact given left earlier
      · exact ⟨d, rfl, later d List.mem_cons_self⟩

end Ends

end Pattern

end Testbed.Text
