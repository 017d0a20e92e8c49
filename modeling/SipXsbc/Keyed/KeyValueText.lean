import Mathlib.Data.List.Basic
import Mathlib.Data.List.Nodup

/-!
# Text of key and value lines

A list of entries as a text, one line `key=value` for each. The lines of the text are
those of the entries (`linesOf_renderEntries`), and entries with different keys have
different lines (`nodup_lines`), as long as no entry contains what separates them.
-/

namespace Keyed

/-- A key and its value. -/
abbrev Entry := String × String

/-- The line of an entry. -/
def entryText (e : Entry) : String := e.1 ++ "=" ++ e.2

def renderEntries (es : List Entry) : List Char :=
  es.flatMap fun e => (entryText e).toList ++ ['\n']

/-- The lines of a text; what follows the last line break is a line if there is
anything. -/
def linesOf : List Char → List (List Char)
  | [] => []
  | c :: cs =>
    if c = '\n' then [] :: linesOf cs
    else
      match linesOf cs with
      | [] => [[c]]
      | l :: ls => (c :: l) :: ls

/-- A line is cut at its first `=`. -/
def entryOf (line : String) : Entry :=
  (String.ofList (line.toList.takeWhile (· != '=')),
    String.ofList ((line.toList.dropWhile (· != '=')).drop 1))

/-- Nothing in the entry separates a key from its value or a line from the next. -/
structure Entry.Separable (e : Entry) : Prop where
  key : '=' ∉ e.1.toList ∧ '\n' ∉ e.1.toList
  value : '\n' ∉ e.2.toList

/-- What stands before the first separator, and what after it. -/
theorem append_sep_inj {α : Type} {sep : α} {xs ys xs' ys' : List α} (free : sep ∉ xs)
    (free' : sep ∉ xs') (same : xs ++ sep :: ys = xs' ++ sep :: ys') : xs = xs' ∧ ys = ys' := by
  induction xs generalizing xs' with
  | nil =>
    rcases xs' with _ | ⟨x', xs'⟩
    · exact ⟨rfl, (List.cons.inj same).2⟩
    · rw [List.nil_append, List.cons_append] at same
      exact absurd ((List.cons.inj same).1 ▸ List.mem_cons_self) free'
  | cons x xs ih =>
    rcases xs' with _ | ⟨x', xs'⟩
    · rw [List.nil_append, List.cons_append] at same
      exact absurd ((List.cons.inj same).1 ▸ List.mem_cons_self) free
    · obtain ⟨rfl, rest⟩ := List.cons.inj same
      obtain ⟨rfl, after⟩ := ih (fun member => free (List.mem_cons_of_mem x member))
        (fun member => free' (List.mem_cons_of_mem x member)) rest
      exact ⟨rfl, after⟩

theorem toList_entryText (e : Entry) : (entryText e).toList = e.1.toList ++ '=' :: e.2.toList := by
  simp only [entryText, String.toList_append, List.append_assoc]
  rfl

theorem linesOf_append {l : List Char} (within : '\n' ∉ l) (rest : List Char) :
    linesOf (l ++ '\n' :: rest) = l :: linesOf rest := by
  induction l with
  | nil => rfl
  | cons c l ih =>
    have differs : c ≠ '\n' := fun same => within (same ▸ List.mem_cons_self)
    rw [List.cons_append, linesOf, if_neg differs, ih fun member =>
      within (List.mem_cons_of_mem c member)]

theorem Entry.Separable.line {e : Entry} (separable : e.Separable) :
    '\n' ∉ (entryText e).toList := by
  rw [toList_entryText]
  intro member
  rcases List.mem_append.mp member with inKey | rest
  · exact separable.key.2 inKey
  · rcases List.mem_cons.mp rest with isEq | inValue
    · exact absurd isEq (by decide)
    · exact separable.value inValue

/-- The lines of a rendered list are the lines of its entries. -/
theorem linesOf_renderEntries {es : List Entry} (separable : ∀ e ∈ es, e.Separable) :
    linesOf (renderEntries es) = es.map fun e => (entryText e).toList := by
  induction es with
  | nil => rfl
  | cons e es ih =>
    have first := (separable e List.mem_cons_self).line
    have rest := ih fun e' member => separable e' (List.mem_cons_of_mem e member)
    have split : renderEntries (e :: es) = (entryText e).toList ++ '\n' :: renderEntries es := by
      simp only [renderEntries, List.flatMap_cons, List.append_assoc, List.cons_append,
        List.nil_append]
    rw [split, linesOf_append first, rest, List.map_cons]

/-- The line determines the entry. -/
theorem entryText_inj {e e' : Entry} (separable : e.Separable) (separable' : e'.Separable)
    (same : entryText e = entryText e') : e = e' := by
  have lists : e.1.toList ++ '=' :: e.2.toList = e'.1.toList ++ '=' :: e'.2.toList := by
    rw [← toList_entryText, ← toList_entryText, same]
  obtain ⟨keys, values⟩ := append_sep_inj separable.key.1 separable'.key.1 lists
  exact Prod.ext (String.toList_injective keys) (String.toList_injective values)

/-- Cutting a line undoes writing it. -/
theorem entryOf_entryText {e : Entry} (separable : e.Separable) : entryOf (entryText e) = e := by
  have key : ∀ c ∈ e.1.toList, (c != '=') = true := by
    intro c member
    rw [bne_iff_ne]
    exact fun same => separable.key.1 (same ▸ member)
  unfold entryOf
  rw [toList_entryText, List.takeWhile_append_of_pos key, List.dropWhile_append_of_pos key]
  simp only [List.takeWhile_cons, List.dropWhile_cons, bne_self_eq_false, Bool.false_eq_true,
    if_false, List.append_nil, List.drop_succ_cons, List.drop_zero, String.ofList_toList]

theorem nodup_lines {es : List Entry} (separable : ∀ e ∈ es, e.Separable)
    (distinct : (es.map Prod.fst).Nodup) : (es.map entryText).Nodup := by
  rw [List.nodup_map_iff_inj_on (List.Nodup.of_map _ distinct)]
  exact fun e member e' member' same => entryText_inj (separable e member) (separable e' member') same

end Keyed
