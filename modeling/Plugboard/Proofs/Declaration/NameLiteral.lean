import Mathlib.Data.List.Basic
import Plugboard.Text.Inspected

/-!
# Quoted text

What stands between the quotes of an inspected text tells the characters of the text: of each
character it can be seen where the way it is written ends.
-/

namespace Plugboard.Text

/-! ## Numbers of characters -/

theorem digitChar_inj : ∀ first < 16, ∀ second < 16,
    Nat.digitChar first = Nat.digitChar second → first = second := by decide

theorem digitChar_ne_brace : ∀ digit < 16, Nat.digitChar digit ≠ '\x7d' := by decide

/-- A number is written as its quotient and then its last digit. -/
theorem hexadecimal_eq (n : Nat) : hexadecimal n =
    (if n < 16 then [] else hexadecimal (n / 16)) ++ [Nat.digitChar (n % 16)] := by
  rw [hexadecimal, Nat.toDigits_eq_if (by decide)]
  split
  · rw [Nat.mod_eq_of_lt ‹_›, List.nil_append]
  · rw [hexadecimal]

theorem not_mem_hexadecimal (n : Nat) : '\x7d' ∉ hexadecimal n := by
  induction n using Nat.strongRecOn with
  | ind n ih =>
      have hlast := digitChar_ne_brace (n % 16) (Nat.mod_lt n (by decide))
      rw [hexadecimal_eq, List.mem_append, List.mem_singleton, not_or]
      refine ⟨?front, hlast.symm⟩
      split
      · exact List.not_mem_nil
      · exact ih (n / 16) (by omega)

/-- Digits tell numbers apart. -/
theorem hexadecimal_injective : Function.Injective hexadecimal := by
  intro first
  induction first using Nat.strongRecOn with
  | ind first ih =>
      intro second hsame
      have hne (n : Nat) : hexadecimal n ≠ [] := Nat.toDigits_ne_nil
      rw [hexadecimal_eq first, hexadecimal_eq second] at hsame
      obtain ⟨hfront, hlast⟩ := List.append_inj' hsame rfl
      have hdigit : first % 16 = second % 16 :=
        digitChar_inj _ (Nat.mod_lt _ (by decide)) _ (Nat.mod_lt _ (by decide))
          (List.singleton_inj.mp hlast)
      have hquotient : first / 16 = second / 16 := by
        split at hfront <;> split at hfront
        · omega
        · exact absurd hfront.symm (hne _)
        · exact absurd hfront (hne _)
        · exact ih (first / 16) (by omega) hfront
      omega

/-! ## Characters -/

/-- Characters that are written as a mark behind a backslash, with the mark. -/
def marked : List (Char × Char) :=
  [('\x00', '0'), ('\t', 't'), ('\r', 'r'), ('\n', 'n'), ('\\', '\\'), ('"', '"')]

theorem marked_inj : ∀ first ∈ marked, ∀ second ∈ marked,
    first.2 = second.2 → first.1 = second.1 := by decide

theorem mark_ne_u : ∀ place ∈ marked, place.2 ≠ 'u' := by decide

/-- A character is written as a mark behind a backslash, by its number, or as it is. -/
theorem inspectChar_cases (c : Char) :
    (∃ mark, (c, mark) ∈ marked ∧ inspectChar c = ['\\', mark]) ∨
      inspectChar c = '\\' :: 'u' :: '\x7b' :: (hexadecimal c.toNat ++ ['\x7d']) ∨
      inspectChar c = [c] ∧ c ≠ '\\' := by
  unfold inspectChar
  split
  case h_7 hbackslash _ =>
    split
    · exact Or.inr (Or.inl rfl)
    · exact Or.inr (Or.inr ⟨rfl, hbackslash⟩)
  all_goals exact Or.inl ⟨_, by decide, rfl⟩

theorem inspectChar_ne_nil (c : Char) : inspectChar c ≠ [] := by
  obtain ⟨mark, -, hc⟩ | hc | ⟨hc, -⟩ := inspectChar_cases c <;> simp [hc]

/-- The digits of a number end where the brace stands. -/
theorem takeWhile_hexadecimal (n : Nat) (rest : List Char) :
    (hexadecimal n ++ '\x7d' :: rest).takeWhile (· ≠ '\x7d') = hexadecimal n := by
  have hdigits : ∀ c ∈ hexadecimal n, decide (c ≠ '\x7d') = true := by
    intro c hc
    exact decide_eq_true fun hbrace => not_mem_hexadecimal n (hbrace ▸ hc)
  rw [List.takeWhile_append_of_pos hdigits]
  simp

/-- How a character is written tells the character and where the next one starts. -/
theorem inspectChar_append_inj {first second : Char} {rest others : List Char}
    (hsame : inspectChar first ++ rest = inspectChar second ++ others) :
    first = second ∧ rest = others := by
  obtain ⟨mark, hmark, hfirst⟩ | hfirst | ⟨hfirst, hbackslash⟩ := inspectChar_cases first <;>
    obtain ⟨other, hother, hsecond⟩ | hsecond | ⟨hsecond, hno⟩ := inspectChar_cases second <;>
      rw [hfirst, hsecond] at hsame <;>
      simp only [List.cons_append, List.append_assoc, List.nil_append, List.cons.injEq,
        true_and] at hsame
  case inl.inl => exact ⟨marked_inj _ hmark _ hother hsame.1, hsame.2⟩
  case inr.inl.inr.inl =>
    have hdigits := congrArg (List.takeWhile (· ≠ '\x7d')) hsame
    rw [takeWhile_hexadecimal, takeWhile_hexadecimal] at hdigits
    rw [hdigits] at hsame
    exact ⟨Char.toNat_inj.mp (hexadecimal_injective hdigits),
      (List.cons.inj (List.append_cancel_left hsame)).2⟩
  case inr.inr.inr.inr => exact hsame
  case inl.inr.inl => exact absurd hsame.1 (mark_ne_u _ hmark)
  case inr.inl.inl => exact absurd hsame.1.symm (mark_ne_u _ hother)
  case inl.inr.inr | inr.inl.inr.inr => exact absurd hsame.1.symm hno
  case inr.inr.inl | inr.inr.inr.inl => exact absurd hsame.1 hbackslash

/-! ## Texts -/

theorem flatMap_inspectChar_injective :
    Function.Injective fun text : List Char => text.flatMap inspectChar := by
  intro first second hsame
  induction first generalizing second with
  | nil =>
      cases second with
      | nil => rfl
      | cons c rest => exact absurd (List.append_eq_nil_iff.mp hsame.symm).1 (inspectChar_ne_nil c)
  | cons c rest ih =>
      cases second with
      | nil => exact absurd (List.append_eq_nil_iff.mp hsame).1 (inspectChar_ne_nil c)
      | cons d others =>
          obtain ⟨rfl, hrest⟩ := inspectChar_append_inj hsame
          rw [ih hrest]

/-- Texts are told apart by what is written of them between quotes. -/
theorem inspectString_injective : Function.Injective inspectString := by
  intro first second hsame
  have hquoted := (List.cons.inj (String.ofList_injective hsame)).2
  exact String.toList_inj.mp (flatMap_inspectChar_injective (List.append_cancel_right hquoted))

end Plugboard.Text
