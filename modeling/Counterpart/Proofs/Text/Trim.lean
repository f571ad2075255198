import Counterpart.Text.Basic
import Mathlib.Data.List.DropRight
import Mathlib.Data.List.TakeWhile
import Mathlib.Tactic.Lemma

/-!
# Cutting the ends off a text

* `exists_trimEnd` and `exists_trim`: only characters of the kind are cut off;
* `trimEnd_append`, `trim_around` and `trim_append`: and all of them are;
* `trim_eq_self`: nothing is cut off a text that begins and ends with other characters.
-/

namespace Counterpart.Text

variable {p : Char → Bool}

lemma trimEnd_append (t : Text) {u : Text} (h : ∀ c ∈ u, p c = true) : trimEnd p (t ++ u) = trimEnd p t := by
  unfold trimEnd
  rw [List.reverse_append, List.dropWhile_append_of_pos (fun c hc => h c (List.mem_reverse.mp hc))]

lemma trimEnd_append_cons (t u : Text) {c : Char} (h : p c = false) :
    trimEnd p (t ++ c :: u) = t ++ c :: trimEnd p u := by
  unfold trimEnd
  rw [List.reverse_append, List.reverse_cons, List.append_assoc, List.dropWhile_append]
  split
  · next hempty =>
    -- all of the second part is cut off, but the character before it is not
    rw [List.isEmpty_iff.mp hempty, List.singleton_append, List.dropWhile_cons_of_neg (by simp [h])]
    simp
  · simp

lemma trimEnd_trimEnd (p : Char → Bool) (t : Text) : trimEnd p (trimEnd p t) = trimEnd p t := by
  unfold trimEnd
  rw [List.reverse_reverse, List.dropWhile_idempotent]

/-- What is cut off the end of a text. -/
lemma exists_trimEnd (p : Char → Bool) (t : Text) : ∃ u, t = trimEnd p t ++ u ∧ ∀ c ∈ u, p c = true := by
  refine ⟨(t.reverse.takeWhile p).reverse, ?_, ?_⟩
  · unfold trimEnd
    rw [← List.reverse_append, List.takeWhile_append_dropWhile, List.reverse_reverse]
  · intro c hc
    exact List.mem_takeWhile_imp (List.mem_reverse.mp hc)

/-- What is cut off either end of a text. -/
lemma exists_trim (p : Char → Bool) (t : Text) :
    ∃ before after, t = before ++ (trim p t ++ after) ∧ (∀ c ∈ before, p c = true) ∧ ∀ c ∈ after, p c = true := by
  obtain ⟨after, hafter, hall⟩ := exists_trimEnd p (t.dropWhile p)
  refine ⟨t.takeWhile p, after, ?_, fun c hc => List.mem_takeWhile_imp hc, hall⟩
  unfold trim
  rw [← hafter, List.takeWhile_append_dropWhile]

/-- What stands around a text is cut off with what is cut off the text itself. -/
lemma trim_around {before t after : Text} (hbefore : ∀ c ∈ before, p c = true) (hafter : ∀ c ∈ after, p c = true) :
    trim p (before ++ (t ++ after)) = trim p t := by
  unfold trim
  rw [List.dropWhile_append_of_pos hbefore, List.dropWhile_append]
  split
  · next hempty =>
    rw [List.isEmpty_iff.mp hempty, List.dropWhile_eq_nil_iff.mpr hafter]
  · exact trimEnd_append _ hafter

/-! ## Texts with nothing to cut off -/

variable {t : Text} {c : Char}

lemma eq_false_of_head?_dropWhile (h : (t.dropWhile p).head? = some c) : p c = false := by
  have hhead := List.head?_dropWhile_not p t
  rw [h] at hhead
  simpa using hhead

lemma eq_false_of_getLast?_trimEnd (h : (trimEnd p t).getLast? = some c) : p c = false := by
  unfold trimEnd at h
  rw [List.getLast?_reverse] at h
  exact eq_false_of_head?_dropWhile h

lemma eq_false_of_getLast?_trim (h : (trim p t).getLast? = some c) : p c = false :=
  eq_false_of_getLast?_trimEnd h

lemma eq_false_of_head?_trim (h : (trim p t).head? = some c) : p c = false := by
  obtain ⟨after, hafter, -⟩ := exists_trimEnd p (t.dropWhile p)
  refine eq_false_of_head?_dropWhile (t := t) ?_
  rw [hafter, List.head?_append]
  unfold trim at h
  rw [h, Option.some_or]

lemma trim_eq_self (hhead : ∀ c, t.head? = some c → p c = false) (hlast : ∀ c, t.getLast? = some c → p c = false) :
    trim p t = t := by
  have hstart (u : Text) (h : ∀ c, u.head? = some c → p c = false) : u.dropWhile p = u := by
    cases u with
    | nil => rfl
    | cons c rest => exact List.dropWhile_cons_of_neg (by simp [h c rfl])
  unfold trim trimEnd
  rw [hstart t hhead, hstart t.reverse fun c hc => hlast c (by rwa [List.head?_reverse] at hc), List.reverse_reverse]

lemma trim_append {before core after : Text} (hbefore : ∀ c ∈ before, p c = true) (hcore : ∀ c ∈ core, p c = false)
    (hafter : ∀ c ∈ after, p c = true) : trim p (before ++ (core ++ after)) = core := by
  rw [trim_around hbefore hafter]
  exact trim_eq_self (fun c hc => hcore c (List.mem_of_head? hc)) fun c hc => hcore c (List.mem_of_getLast? hc)

end Counterpart.Text
