import Mathlib.Data.List.Basic
import Plugboard.Logging.Builder

/-!
# Directives for modules

A filter of the settings is written as the name of a module and a level.  Reading it gives the
directive that speaks of all events whose target starts with the name.
-/

namespace Plugboard

/-! ## Module paths -/

namespace Text

/-- The characters are a name. -/
def IsName (step : List Char) : Prop :=
  ∃ first rest, step = first :: rest ∧ isNameStart first = true ∧
    ∀ c ∈ rest, isNameRest c = true

/-- The text is the path of a module: a package, named by letters, numbers and low lines, and
names of modules inside it, each behind two colons. -/
def IsModulePath (path : String) : Prop :=
  ∃ (package : List Char) (inner : List (List Char)),
    path.toList = package ++ inner.flatMap (fun step => ':' :: ':' :: step) ∧ package ≠ [] ∧
    (∀ c ∈ package, isAlphanumeric c = true ∨ c = '_') ∧
    ∀ step ∈ inner, IsName step

def blanks : List Char :=
  ([0x09, 0x0a, 0x0b, 0x0c, 0x0d, 0x20, 0x85, 0xa0, 0x1680, 0x2000, 0x2001, 0x2002, 0x2003, 0x2004,
    0x2005, 0x2006, 0x2007, 0x2008, 0x2009, 0x200a, 0x2028, 0x2029, 0x202f, 0x205f, 0x3000] :
      List Nat).map Char.ofNat

theorem mem_blanks_of_isBlank {c : Char} (hblank : isBlank c = true) : c ∈ blanks := by
  rw [blanks, List.mem_map]
  refine ⟨c.toNat, ?_, Char.ofNat_toNat c⟩
  simp only [isBlank, Bool.or_eq_true, Bool.and_eq_true, decide_eq_true_eq, beq_iff_eq] at hblank
  simp only [List.mem_cons, List.not_mem_nil, or_false]
  omega

theorem not_isBlank_of_isAlphanumeric {c : Char} (hletter : isAlphanumeric c = true) :
    isBlank c = false := by
  have hall : (blanks.all fun c => !isAlphanumeric c) = true := by decide +kernel
  by_contra hblank
  rw [Bool.not_eq_false] at hblank
  have hnot := List.all_eq_true.mp hall c (mem_blanks_of_isBlank hblank)
  rw [hletter] at hnot
  cases hnot

/-- The characters can be the target of a directive: what stands first may start one, and no
character ends it. -/
structure IsTarget (target : List Char) : Prop where
  first : ∃ c rest, target = c :: rest ∧ LogDirective.isFirstOfWord c = true ∧ isBlank c = false
  goesOn : ∀ c ∈ target, c ≠ '=' ∧ c ≠ '['

theorem ne_of_class (accepts : Char → Bool) (hequals : accepts '=' = false)
    (hbracket : accepts '[' = false) {c : Char} (hc : accepts c = true) : c ≠ '=' ∧ c ≠ '[' := by
  constructor
  · rintro rfl
    exact Bool.false_ne_true (hequals.symm.trans hc)
  · rintro rfl
    exact Bool.false_ne_true (hbracket.symm.trans hc)

theorem IsName.ne {step : List Char} (hname : IsName step) : ∀ c ∈ step, c ≠ '=' ∧ c ≠ '[' := by
  obtain ⟨first, rest, rfl, hfirst, hrest⟩ := hname
  intro c hc
  refine ne_of_class isNameRest (by decide) (by decide) ?_
  rcases List.mem_cons.mp hc with rfl | hc
  · exact isNameRest_of_isNameStart hfirst
  · exact hrest c hc

/-- The path of a module can be the target of a directive. -/
theorem IsModulePath.isTarget {path : String} (hpath : IsModulePath path) :
    IsTarget path.toList := by
  obtain ⟨package, inner, hpath, hne, hpackage, hinner⟩ := hpath
  rw [hpath]
  refine ⟨?_, fun c hc => ?_⟩
  · obtain ⟨c, rest, rfl⟩ := List.exists_cons_of_ne_nil hne
    refine ⟨c, rest ++ inner.flatMap (fun step => ':' :: ':' :: step), rfl, ?_, ?_⟩
    · rcases hpackage c List.mem_cons_self with hletter | rfl
      · simp [LogDirective.isFirstOfWord, hletter]
      · decide
    · rcases hpackage c List.mem_cons_self with hletter | rfl
      · exact not_isBlank_of_isAlphanumeric hletter
      · decide
  · rcases List.mem_append.mp hc with hc | hc
    · rcases hpackage c hc with hletter | rfl
      · exact ne_of_class isAlphanumeric (by decide) (by decide) hletter
      · decide
    · obtain ⟨step, hstep, hc⟩ := List.mem_flatMap.mp hc
      rcases List.mem_cons.mp hc with rfl | hc
      · decide
      · rcases List.mem_cons.mp hc with rfl | hc
        · decide
        · exact (hinner step hstep).ne c hc

/-! ## Places in a text -/

def size : List Char → Nat
  | [] => 0
  | c :: rest => c.utf8Size + size rest

theorem beyondBytes_zero (text : List Char) : beyondBytes 0 text = text := by
  cases text with
  | nil => rfl
  | cons c rest => exact if_neg (Nat.not_le.mpr c.utf8Size_pos)

/-- Bytes are counted off as the characters in front take them. -/
theorem beyondBytes_size (start rest : List Char) :
    beyondBytes (size start) (start ++ rest) = rest := by
  induction start with
  | nil => exact beyondBytes_zero rest
  | cons c start ih =>
      rw [size, List.cons_append, beyondBytes, if_pos (Nat.le_add_right _ _),
        Nat.add_sub_cancel_left, ih]

theorem withinBytes_size (start rest : List Char) :
    withinBytes (size start) (start ++ rest) = start := by
  have hboth := withinBytes_append_beyondBytes (size start) (start ++ rest)
  rw [beyondBytes_size] at hboth
  exact List.append_cancel_right hboth

theorem size_append (start rest : List Char) : size (start ++ rest) = size start + size rest := by
  induction start with
  | nil => exact (Nat.zero_add _).symm
  | cons c start ih => rw [List.cons_append, size, size, ih, Nat.add_assoc]

/-- A text that neither begins nor ends with a blank is trimmed already. -/
theorem trimmed_eq_self {text : String} {first last : Char} {rest start : List Char}
    (hfirst : text.toList = first :: rest) (hlast : text.toList = start ++ [last])
    (hbegin : isBlank first = false) (hend : isBlank last = false) : trimmed text = text := by
  have hdrop : text.toList.dropWhile isBlank = text.toList := by
    rw [hfirst]
    exact List.dropWhile_cons_of_neg (by simp [hbegin])
  have hreverse : text.toList.reverse.dropWhile isBlank = text.toList.reverse := by
    rw [hlast, List.reverse_append]
    exact List.dropWhile_cons_of_neg (by simp [hend])
  rw [trimmed, hdrop, hreverse, List.reverse_reverse, String.ofList_toList]

end Text

namespace LogDirective

open Text (size size_append beyondBytes_size withinBytes_size beyondBytes_zero)

/-! ## Reading a directive -/

/-- A word goes on until an equals sign or a bracket. -/
theorem takeAll_word {text cs : List Char} (hcs : ∀ c ∈ cs, c ≠ '=' ∧ c ≠ '[') {draft : Draft}
    {first : Nat} (hpart : draft.part = .word first) (place : Nat) (rest : List Char) :
    draft.takeAll text place (cs ++ rest) = draft.takeAll text (place + size cs) rest := by
  induction cs generalizing place with
  | nil => rfl
  | cons c cs ih =>
      obtain ⟨⟨hequals, hbracket⟩, hcs⟩ := List.forall_mem_cons.mp hcs
      have htake : draft.take text place c = some draft := by
        simp only [Draft.take, hpart, if_neg hequals, if_neg hbracket]
      rw [List.cons_append, Draft.takeAll, htake, size, ← Nat.add_assoc]
      exact ih hcs _

/-- A verbosity goes on to the end. -/
theorem takeAll_verbosity (text cs : List Char) {draft : Draft} {first : Nat}
    (hpart : draft.part = .verbosity first) (place : Nat) :
    draft.takeAll text place cs = some draft := by
  induction cs generalizing place with
  | nil => rfl
  | cons c cs ih =>
      have htake : draft.take text place c = some draft := by simp only [Draft.take, hpart]
      rw [Draft.takeAll, htake]
      exact ih _

/-- Reading a target, an equals sign and a word. -/
theorem takeAll_target {target word : List Char} (htarget : Text.IsTarget target) :
    Draft.takeAll (target ++ '=' :: word) ⟨.start, none, none, []⟩ 0 (target ++ '=' :: word) =
      some ⟨.verbosity (size target + 1), some (String.ofList target), none, []⟩ := by
  obtain ⟨⟨c, rest, rfl, hfirst, -⟩, hgoesOn⟩ := htarget
  obtain ⟨⟨-, hbracket⟩, hrest⟩ := List.forall_mem_cons.mp hgoesOn
  generalize htext : c :: rest ++ '=' :: word = text
  have hstart : Draft.take text ⟨.start, none, none, []⟩ 0 c = some ⟨.word 0, none, none, []⟩ := by
    simp only [Draft.take, if_neg hbracket, if_pos hfirst]
  have hsize : size (c :: rest) = 0 + c.utf8Size + size rest := by
    rw [Nat.zero_add, size]
  have htarget : Text.betweenBytes 0 (size (c :: rest)) text = c :: rest := by
    rw [Text.betweenBytes, beyondBytes_zero, Nat.sub_zero, ← htext, withinBytes_size]
  have hequals : Draft.take text ⟨.word 0, none, none, []⟩ (size (c :: rest)) '=' =
      some ⟨.verbosity (size (c :: rest) + 1), some (String.ofList (c :: rest)), none, []⟩ := by
    simp only [Draft.take, if_true, htarget]
  rw [← htext, List.cons_append, Draft.takeAll, ← List.cons_append, htext, hstart]
  refine (takeAll_word hrest rfl _ _).trans ?_
  rw [← hsize, Draft.takeAll, hequals]
  exact takeAll_verbosity _ _ rfl _

theorem verbosity?_name (level : Level) : verbosity? level.name.toList = some level.rank := by
  cases level <;> decide

def ofFilter (filter : String × Level) : LogDirective := ⟨some filter.1, none, [], filter.2.rank⟩

/-- A filter is read back from the directive that is written for it. -/
theorem parse?_directiveText {filter : String × Level} (htarget : Text.IsTarget filter.1.toList) :
    parse? (LoggingBuilder.directiveText filter) = some (ofFilter filter) := by
  obtain ⟨name, level⟩ := filter
  have htext : (LoggingBuilder.directiveText (name, level)).toList =
      name.toList ++ '=' :: level.name.toList := by
    simp [LoggingBuilder.directiveText]
  obtain ⟨start, last, hword, hlast⟩ : ∃ start last, level.name.toList = start ++ [last] ∧
      Text.isBlank last = false := by
    cases level
    · exact ⟨['e', 'r', 'r', 'o'], 'r', by decide, by decide⟩
    · exact ⟨['w', 'a', 'r'], 'n', by decide, by decide⟩
    · exact ⟨['i', 'n', 'f'], 'o', by decide, by decide⟩
    · exact ⟨['d', 'e', 'b', 'u'], 'g', by decide, by decide⟩
    · exact ⟨['t', 'r', 'a', 'c'], 'e', by decide, by decide⟩
  obtain ⟨c, rest, hname, -, hfirst⟩ := htarget.first
  have htrimmed : Text.trimmed (LoggingBuilder.directiveText (name, level)) =
      LoggingBuilder.directiveText (name, level) := by
    have hbegin : (LoggingBuilder.directiveText (name, level)).toList =
        c :: (rest ++ '=' :: level.name.toList) := by rw [htext, hname, List.cons_append]
    have hend : (LoggingBuilder.directiveText (name, level)).toList =
        (name.toList ++ '=' :: start) ++ [last] := by
      rw [htext, hword, ← List.cons_append, ← List.append_assoc]
    exact Text.trimmed_eq_self hbegin hend hfirst hlast
  rw [parse?, htrimmed, htext, takeAll_target htarget]
  have hbeyond : Text.beyondBytes (size name.toList + 1) (name.toList ++ '=' :: level.name.toList) =
      level.name.toList := by
    have hsize : size (name.toList ++ ['=']) = size name.toList + 1 := size_append _ _
    have hsplit : name.toList ++ '=' :: level.name.toList =
        (name.toList ++ ['=']) ++ level.name.toList := by simp
    rw [← hsize, hsplit, beyondBytes_size]
  have hne : level.name.toList.isEmpty = false := by rw [hword]; simp
  simp only [Draft.finish, hbeyond, hne, verbosity?_name, String.ofList_toList]
  rfl

end LogDirective
end Plugboard
