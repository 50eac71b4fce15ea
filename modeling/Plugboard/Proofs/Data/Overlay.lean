import Plugboard.Data.Overlay
import Plugboard.Proofs.Data.Members
import Mathlib.Data.List.Induction
import Mathlib.Data.List.TakeWhile

/-!
# What is seen of values laid over one another

A field of nested records is reached by steps, of which each leads to a member of an object or to
an item of an array.  Where all values are objects on the way, the uppermost that has the field
decides.  An object and something else are not united: the upper one hides the lower one, and all
that lies below that.
-/

namespace Plugboard

namespace Value

/-- A step to a field of a record: its name in an object, its place in an array. -/
structure Step where
  name : String
  place : Nat
  deriving DecidableEq, Repr

/-- Members of objects are in the order of their keys, and null stands only under keys where it
is allowed. -/
inductive Orderly (nullable : String → Prop) : Value → Prop where
  | bool (flag : Bool) : Orderly nullable (.bool flag)
  | number (number : Number) : Orderly nullable (.number number)
  | string (text : String) : Orderly nullable (.string text)
  | array {items : List Value} (hitems : ∀ item ∈ items, Orderly nullable item) :
      Orderly nullable (.array items)
  | object {members : List (String × Value)} (hordered : Members.Ordered members)
      (hmembers : ∀ member ∈ members, ¬ (member.2 = .null ∧ nullable member.1) →
        Orderly nullable member.2) : Orderly nullable (.object members)

def Admits (nullable : String → Prop) (key : String) (value : Value) : Prop :=
  ¬ (value = .null ∧ nullable key) → Orderly nullable value

variable {nullable : String → Prop} {upper lower value : Value} {members : Members} {key : String}

theorem overlay_null : overlay .null lower = .null := by
  cases lower <;> rfl

theorem overlay_over_null : upper.overlay .null = upper := by
  cases upper <;> rfl

/-- Under each key the members of two objects are laid over one another. -/
theorem get?_overlayMembers {upper : Members} (hordered : Members.Ordered upper) (key : String)
    (lower : Members) :
    Members.get? key (overlayMembers upper lower) =
      match Members.get? key upper with
      | none => Members.get? key lower
      | some value =>
        match Members.get? key lower with
        | some below => some (overlay value below)
        | none => some value := by
  induction upper generalizing lower with
  | nil => rfl
  | cons member rest ih =>
      obtain ⟨name, content⟩ := member
      rw [overlayMembers, ih (Members.ordered_cons.mp hordered).2, Members.get?_insert, Members.get?]
      by_cases hkey : name = key
      · have hnone : Members.get? key rest = none := hkey ▸ hordered.get?_rest
        rw [hnone, if_pos hkey.symm, if_pos hkey, hkey]
        cases Members.get? key lower <;> rfl
      · rw [if_neg (Ne.symm hkey), if_neg hkey]

/-! ## Order -/

theorem orderly_record {pairs : List (String × Value)}
    (hpairs : ∀ pair ∈ pairs, ¬ (pair.2 = .null ∧ nullable pair.1) → pair.2.Orderly nullable) :
    (Value.record pairs).Orderly nullable :=
  .object (Members.ordered_ofList pairs) fun member hmember =>
    hpairs member (Members.mem_ofList hmember)

/-- What holds of all members of two objects, and of members laid over others, holds of the
members of the one laid over the other. -/
theorem forall_mem_overlayMembers {holds : String → Value → Prop} {upper : Members}
    (hupper : ∀ member ∈ upper, holds member.1 member.2)
    (hover : ∀ member ∈ upper, ∀ below, holds member.1 below →
      holds member.1 (overlay member.2 below))
    {lower : Members} (hordered : Members.Ordered lower)
    (hlower : ∀ member ∈ lower, holds member.1 member.2) :
    Members.Ordered (overlayMembers upper lower) ∧
      ∀ member ∈ overlayMembers upper lower, holds member.1 member.2 := by
  induction upper generalizing lower with
  | nil => exact ⟨hordered, hlower⟩
  | cons member rest ih =>
      obtain ⟨key, value⟩ := member
      obtain ⟨hvalue, hupper⟩ := List.forall_mem_cons.mp hupper
      obtain ⟨hfirst, hover⟩ := List.forall_mem_cons.mp hover
      rw [overlayMembers]
      refine ih hupper hover (hordered.insert _ _) fun other hother => ?_
      rcases Members.mem_insert hother with rfl | hother
      · cases hbelow : Members.get? key lower with
        | none => exact hvalue
        | some below => exact hfirst below (hlower _ (Members.mem_of_get? hbelow))
      · exact hlower other hother

/-- Orderly values laid over one another are orderly. -/
theorem Orderly.overlay (hupper : upper.Orderly nullable) (hlower : lower.Orderly nullable) :
    (upper.overlay lower).Orderly nullable := by
  induction hupper generalizing lower with
  | bool flag => cases hlower <;> exact .bool flag
  | number number => cases hlower <;> exact .number number
  | string text => cases hlower <;> exact .string text
  | array hitems => cases hlower <;> exact .array hitems
  | @object upper hordered hmembers ih =>
      cases hlower with
      | @object lower hlower hbelow =>
          have hover (member : String × Value) (hmember : member ∈ upper) (below : Value)
              (hbelow : Admits nullable member.1 below) :
              Admits nullable member.1 (member.2.overlay below) := by
            intro hpresent
            by_cases hnull : member.2 = .null
            · rw [hnull, overlay_null] at hpresent ⊢
              rw [← hnull]
              exact hmembers member hmember (hnull ▸ hpresent)
            · have horderly := hmembers member hmember fun hboth => hnull hboth.1
              by_cases hempty : below = .null
              · rw [hempty, overlay_over_null]
                exact horderly
              · exact ih member hmember (fun hboth => hnull hboth.1)
                  (hbelow fun hboth => hempty hboth.1)
          have hall : Members.Ordered (overlayMembers upper lower) ∧
              ∀ member ∈ overlayMembers upper lower, Admits nullable member.1 member.2 :=
            forall_mem_overlayMembers hmembers hover hlower hbelow
          rw [Value.overlay]
          exact .object hall.1 hall.2
      | _ => exact .object hordered hmembers

/-! ## Fields -/

def isObject : Value → Bool
  | .object _ => true
  | _ => false

def member? (name : String) : Value → Option Value
  | .object members => Members.get? name members
  | _ => none

/-- What a value gives for the field at the end of steps. -/
def given? : List Step → Value → Option Value
  | [], value => some value
  | step :: rest, .object members => (Members.get? step.name members).bind (given? rest)
  | step :: rest, .array items => items[step.place]?.bind (given? rest)
  | _ :: _, _ => none

/-- Steps are taken one after the other. -/
theorem given?_append (first rest : List Step) (value : Value) :
    value.given? (first ++ rest) = (value.given? first).bind (given? rest) := by
  induction first generalizing value with
  | nil => rfl
  | cons step others ih =>
      cases value with
      | object members =>
          rw [List.cons_append, given?, given?, Option.bind_assoc]
          exact congrArg _ (funext ih)
      | array items =>
          rw [List.cons_append, given?, given?, Option.bind_assoc]
          exact congrArg _ (funext ih)
      | _ => rfl

/-- What is seen of a field through values laid over one another, the uppermost first. -/
def seen? : List Step → List Value → Option Value
  | [], values => values.head?
  | step :: rest, values =>
    match values.head? with
    | none => none
    | some top =>
      if top.isObject then
        seen? rest ((values.takeWhile isObject).filterMap (member? step.name))
      else given? (step :: rest) top

/-- On the way to the field there are objects only. -/
def Tabular : List Step → Value → Prop
  | [], _ => True
  | step :: rest, .object members =>
    ∀ value, Members.get? step.name members = some value → Tabular rest value
  | _ :: _, _ => False

def laid? : List Value → Option Value
  | [] => none
  | value :: rest => some (((laid? rest).map (overlay value)).getD value)

theorem laid?_reverse_append (lowest : Value) (layers : List Value) :
    laid? (layers.reverse ++ [lowest]) = some (stacked lowest layers) := by
  induction layers using List.reverseRecOn with
  | nil => rfl
  | append_singleton layers top ih =>
      rw [List.reverse_append, List.reverse_singleton, List.singleton_append, List.cons_append,
        laid?, ih, stacked, stacked, List.foldl_append]
      rfl

theorem exists_laid?_cons (value : Value) (rest : List Value) :
    ∃ below, laid? (value :: rest) = some (value.overlay below) := by
  rw [laid?]
  cases laid? rest with
  | none => exact ⟨.null, congrArg some overlay_over_null.symm⟩
  | some below => exact ⟨below, rfl⟩

theorem isObject_overlay : (upper.overlay lower).isObject = upper.isObject := by
  cases upper <;> cases lower <;> rfl

theorem overlay_of_isObject_eq_false (hupper : upper.isObject = false) :
    upper.overlay lower = upper := by
  cases upper with
  | object members => cases hupper
  | _ => cases lower <;> rfl

theorem overlay_over_not_object (hlower : lower.isObject = false) :
    upper.overlay lower = upper := by
  cases lower with
  | object members => cases hlower
  | _ => cases upper <;> rfl

def Kept (nullable : String → Prop) (value : Value) : Prop :=
  value = .null ∨ value.Orderly nullable

theorem Kept.member (hkept : value.Kept nullable) {name : String} {content : Value}
    (hmember : value.member? name = some content) : content.Kept nullable := by
  rcases hkept with rfl | horderly
  · cases hmember
  · cases horderly with
    | object hordered hmembers =>
        by_cases hnull : content = .null
        · exact .inl hnull
        · exact .inr (hmembers _ (Members.mem_of_get? hmember) fun hboth => hnull hboth.1)
    | _ => cases hmember

theorem Kept.ordered (hkept : value.Kept nullable) (members : Members)
    (hobject : value = .object members) : Members.Ordered members := by
  subst hobject
  rcases hkept with hnull | horderly
  · cases hnull
  · cases horderly with
    | object hordered _ => exact hordered

theorem Kept.given? (hkept : value.Kept nullable) {steps : List Step} {content : Value}
    (hcontent : value.given? steps = some content) : content.Kept nullable := by
  induction steps generalizing value with
  | nil =>
      cases hcontent
      exact hkept
  | cons step rest ih =>
      cases value with
      | object members =>
          obtain ⟨inner, hinner, hcontent⟩ := Option.bind_eq_some_iff.mp hcontent
          exact ih (hkept.member hinner) hcontent
      | array items =>
          obtain ⟨inner, hinner, hcontent⟩ := Option.bind_eq_some_iff.mp hcontent
          rcases hkept with hnull | horderly
          · cases hnull
          · cases horderly with
            | array hitems => exact ih (.inr (hitems inner (List.mem_of_getElem? hinner))) hcontent
      | _ => cases hcontent

/-- A member of objects laid over one another is the upper one laid over the lower one. -/
theorem member?_overlay (hkept : upper.Kept nullable) (hupper : upper.isObject = true)
    (hlower : lower.isObject = true) (name : String) :
    (upper.overlay lower).member? name =
      match upper.member? name with
      | none => lower.member? name
      | some value =>
        match lower.member? name with
        | some below => some (value.overlay below)
        | none => some value := by
  cases upper with
  | object members =>
      cases lower with
      | object below => exact get?_overlayMembers (hkept.ordered members rfl) name below
      | _ => cases hlower
  | _ => cases hupper

/-- A member of objects laid over one another is what their members are laid over one another,
down to the first value that is no object. -/
theorem member?_laid {values : List Value} (hkept : ∀ value ∈ values, value.Kept nullable)
    (hobject : ∀ top, values.head? = some top → top.isObject = true) (name : String) :
    (laid? values).bind (member? name) =
      laid? ((values.takeWhile isObject).filterMap (member? name)) := by
  induction values with
  | nil => rfl
  | cons value rest ih =>
      obtain ⟨hvalue, hrest⟩ := List.forall_mem_cons.mp hkept
      have htop : value.isObject = true := hobject value rfl
      rw [laid?, List.takeWhile_cons_of_pos htop, List.filterMap_cons, Option.bind_some]
      cases rest with
      | nil =>
          rw [List.takeWhile_nil, List.filterMap_nil]
          change value.member? name = _
          cases value.member? name <;> rfl
      | cons next others =>
          obtain ⟨deeper, hlaid⟩ := exists_laid?_cons next others
          rw [hlaid, Option.map_some, Option.getD_some]
          cases hnext : next.isObject with
          | false =>
              rw [overlay_of_isObject_eq_false hnext, overlay_over_not_object hnext,
                List.takeWhile_cons_of_neg (Bool.not_eq_true _ ▸ hnext), List.filterMap_nil]
              cases value.member? name <;> rfl
          | true =>
              have hbelow := ih hrest fun top hhead => by
                rw [← Option.some.inj hhead, hnext]
              rw [hlaid, Option.bind_some] at hbelow
              rw [member?_overlay hvalue htop (isObject_overlay.trans hnext)]
              cases value.member? name with
              | none => exact hbelow
              | some content =>
                  rw [laid?, ← hbelow]
                  cases (next.overlay deeper).member? name <;> rfl

/-! ## Through the values -/

theorem seen?_nil (steps : List Step) : seen? steps [] = none := by
  cases steps <;> rfl

theorem seen?_of_isObject {step : Step} {rest : List Step} {others : List Value}
    (hvalue : value.isObject = true) : seen? (step :: rest) (value :: others) =
      seen? rest (((value :: others).takeWhile isObject).filterMap (member? step.name)) :=
  if_pos hvalue

/-- Nothing is seen through a value that is no object. -/
theorem seen?_of_not_isObject {step : Step} {rest : List Step} {others : List Value}
    (hvalue : value.isObject = false) :
    seen? (step :: rest) (value :: others) = value.given? (step :: rest) :=
  if_neg (Bool.not_eq_true _ ▸ hvalue)

theorem given?_of_isObject {step : Step} {rest : List Step} (hvalue : value.isObject = true) :
    value.given? (step :: rest) = (value.member? step.name).bind (given? rest) := by
  cases value with
  | object members => rfl
  | _ => cases hvalue

/-- What is seen of a field is what the values laid over one another give for it, laid over
something else perhaps. -/
theorem given?_laid {values : List Value} (hkept : ∀ value ∈ values, value.Kept nullable)
    (steps : List Step) :
    (seen? steps values = none → (laid? values).bind (given? steps) = none) ∧
      ∀ value, seen? steps values = some value →
        ∃ below, (laid? values).bind (given? steps) = some (value.overlay below) := by
  induction steps generalizing values with
  | nil =>
      cases values with
      | nil => simp [seen?, laid?]
      | cons top rest =>
          obtain ⟨below, hlaid⟩ := exists_laid?_cons top rest
          rw [hlaid]
          refine ⟨fun hnone => (by cases hnone), fun value hvalue => ⟨below, ?_⟩⟩
          cases hvalue
          rfl
  | cons step rest ih =>
      cases values with
      | nil => simp [seen?_nil, laid?]
      | cons top others =>
          obtain ⟨below, hlaid⟩ := exists_laid?_cons top others
          cases hobject : top.isObject with
          | false =>
              rw [seen?_of_not_isObject hobject, hlaid, overlay_of_isObject_eq_false hobject]
              exact ⟨id, fun value hvalue =>
                ⟨.null, hvalue.trans (congrArg some overlay_over_null.symm)⟩⟩
          | true =>
              have hmembers : ∀ value ∈ ((top :: others).takeWhile isObject).filterMap
                  (member? step.name), value.Kept nullable := by
                intro value hvalue
                obtain ⟨holder, hholder, hmember⟩ := List.mem_filterMap.mp hvalue
                exact (hkept holder (List.takeWhile_subset _ hholder)).member hmember
              have htop : ∀ head, (top :: others).head? = some head → head.isObject = true :=
                fun head hhead => Option.some.inj hhead ▸ hobject
              have hdown := ih hmembers
              rw [← member?_laid hkept htop, hlaid, Option.bind_some] at hdown
              rw [seen?_of_isObject hobject, hlaid, Option.bind_some,
                given?_of_isObject (isObject_overlay.trans hobject)]
              exact hdown

/-- Where there are only objects on the way, the uppermost value that gives the field is seen. -/
theorem seen?_of_tabular {steps : List Step} {values : List Value}
    (htabular : ∀ value ∈ values, value.Tabular steps) :
    seen? steps values = values.findSome? (given? steps) := by
  induction steps generalizing values with
  | nil => cases values <;> rfl
  | cons step rest ih =>
      have hobjects : ∀ value ∈ values, value.isObject = true := by
        intro value hvalue
        have hway := htabular value hvalue
        cases value with
        | object members => rfl
        | _ => cases hway
      have hdown : ∀ value ∈ values.filterMap (member? step.name), value.Tabular rest := by
        intro content hcontent
        obtain ⟨value, hvalue, hmember⟩ := List.mem_filterMap.mp hcontent
        have hway := htabular value hvalue
        cases value with
        | object members => exact hway content hmember
        | _ => cases hmember
      have hgiven : values.filterMap (given? (step :: rest)) =
          (values.filterMap (member? step.name)).filterMap (given? rest) := by
        rw [List.filterMap_filterMap]
        exact List.filterMap_congr fun value hvalue => given?_of_isObject (hobjects value hvalue)
      cases values with
      | nil => rfl
      | cons top others =>
          rw [seen?_of_isObject (hobjects top List.mem_cons_self),
            List.takeWhile_eq_self_iff.mpr hobjects, ih hdown, ← List.head?_filterMap,
            ← List.head?_filterMap, hgiven]

end Value
end Plugboard
