import Plugboard.Proofs.Data.Reader
import Mathlib.Data.List.Forall2
import Mathlib.Data.List.Nodup

/-!
# Documents without some fields

Fields may be left out of a document at any depth.  A record that is read field by field is still
read of the rest, provided that so are the records in its fields.  In every field that is left
out, and in every field inside it, it then has what is read where nothing is given; all others are
as before.
-/

namespace Plugboard

variable {σ τ : Type} {dialect : Dialect} {omitted : List String → Bool}

/-! ## Documents without some fields -/

namespace Document

/-- The path leads through objects to a member. -/
def Has : List String → Document → Prop
  | [], _ => True
  | name :: rest, .object members =>
    ∃ document, (some name, document) ∈ members ∧ Has rest document
  | _ :: _, _ => False

mutual
/-- The document without the members at the end of omitted paths. -/
def without (omitted : List String → Bool) : Document → Document
  | .object members => .object (membersWithout omitted members)
  | other => other

def membersWithout (omitted : List String → Bool) :
    List (Option String × Document) → List (Option String × Document)
  | [] => []
  | (none, document) :: rest => (none, document) :: membersWithout omitted rest
  | (some name, document) :: rest =>
    if omitted [name] then membersWithout omitted rest
    else
      (some name, document.without fun path => omitted (name :: path)) ::
        membersWithout omitted rest
end

mutual
theorem without_of_forall {omitted : List String → Bool} (hnone : ∀ path, omitted path = false) :
    ∀ document : Document, document.without omitted = document
  | .object members => by rw [without, membersWithout_of_forall hnone members]
  | .null | .bool _ | .number _ | .string _ | .array _ => by rw [without]; nofun

theorem membersWithout_of_forall {omitted : List String → Bool}
    (hnone : ∀ path, omitted path = false) :
    ∀ members : List (Option String × Document), membersWithout omitted members = members
  | [] => by rw [membersWithout]
  | (none, document) :: rest => by rw [membersWithout, membersWithout_of_forall hnone rest]
  | (some name, document) :: rest => by
      rw [membersWithout, hnone, if_neg Bool.false_ne_true,
        without_of_forall (fun _ => hnone _) document, membersWithout_of_forall hnone rest]
end

theorem all_isSome_membersWithout {members : List (Option String × Document)}
    (hnames : members.all (fun member => member.1.isSome) = true) :
    (membersWithout omitted members).all (fun member => member.1.isSome) = true := by
  induction members with
  | nil => rfl
  | cons member rest ih =>
      obtain ⟨_ | name, document⟩ := member
      · cases hnames
      · rw [membersWithout]
        split
        · exact ih hnames
        · exact ih hnames

end Document

open Document (membersWithout)

/-- The slot of a field in a document without the omitted paths. -/
def Slot.without (omitted : List String → Bool) (name : String) : Slot → Slot
  | .given document =>
    if omitted [name] then .absent
    else .given (document.without fun path => omitted (name :: path))
  | other => other

namespace Reader

variable {name : String} {slot : Slot} {members : List (Option String × Document)}

theorem membersNamed_membersWithout (name : String)
    (members : List (Option String × Document)) :
    membersNamed name (membersWithout omitted members) =
      if omitted [name] then []
      else (membersNamed name members).map
        (Document.without fun path => omitted (name :: path)) := by
  induction members with
  | nil => cases omitted [name] <;> rfl
  | cons member rest ih =>
      obtain ⟨_ | key, document⟩ := member
      · rw [membersWithout]
        exact ih
      · rw [membersWithout]
        rw [membersNamed] at ih ⊢
        by_cases hkey : key = name
        · cases homitted : omitted [name] <;>
            simp [membersNamed, hkey, homitted, ih]
        · cases homitted : omitted [key] <;>
            simp [membersNamed, hkey, ih]

/-- A known field is absent from an object, or it is its only member of that name. -/
theorem memberSlot_cases (hslot : memberSlot members name = some slot) :
    (slot = .absent ∧ ∀ document, (some name, document) ∉ members) ∨
      ∃ document, slot = .given document ∧
        ∀ other, (some name, other) ∈ members → other = document := by
  have hmem (document : Document) (hdocument : (some name, document) ∈ members) :
      document ∈ membersNamed name members :=
    List.mem_map.mpr ⟨_, List.mem_filter.mpr ⟨hdocument, beq_self_eq_true _⟩, rfl⟩
  unfold memberSlot at hslot
  split at hslot
  · rename_i hnamed
    refine .inl ⟨(Option.some.inj hslot).symm, fun document hdocument => ?_⟩
    have hnone := hmem document hdocument
    rw [hnamed] at hnone
    cases hnone
  · rename_i document hnamed
    refine .inr ⟨document, (Option.some.inj hslot).symm, fun other hother => ?_⟩
    have hone := hmem other hother
    rw [hnamed] at hone
    exact List.mem_singleton.mp hone
  · cases hslot

/-- A slot of a document without the omitted paths is that slot without them. -/
theorem memberSlot_membersWithout (hslot : memberSlot members name = some slot) :
    memberSlot (membersWithout omitted members) name = some (slot.without omitted name) := by
  rw [memberSlot, membersNamed_membersWithout]
  unfold memberSlot at hslot
  split at hslot <;> cases hslot <;> rename_i hnamed <;>
    cases homitted : omitted [name] <;> simp [hnamed, homitted, Slot.without]

end Reader

/-! ## Records and their settings -/

/-- A field or a section of what is read as a record, at any depth: the names on the way to it,
and what stands there. -/
structure Setting (σ : Type) where
  path : List String
  Content : Type
  get : σ → Content

namespace Setting

def whole : Setting σ := ⟨[], σ, id⟩

/-- A setting of a field as a setting of the record. -/
def under (name : String) (get : τ → σ) (setting : Setting σ) : Setting τ :=
  ⟨name :: setting.path, setting.Content, fun content => setting.get (get content)⟩

/-- Where paths are omitted, a setting is standard if it is at the end of one of them or beyond,
and as before if none of them leads to it, into it or past it. -/
structure FallsBack (setting : Setting σ) (omitted : List String → Bool)
    (standard before after : σ) : Prop where
  within : ∀ path, omitted path → path <+: setting.path →
    setting.get after = setting.get standard
  aside : (∀ path, omitted path → ¬ path <+: setting.path ∧ ¬ setting.path <+: path) →
    setting.get after = setting.get before

variable {setting : Setting σ}

theorem fallsBack_of_forall (hnone : ∀ path, omitted path = false) (standard content : σ) :
    setting.FallsBack omitted standard content content where
  within path homitted _ := absurd homitted (Bool.eq_false_iff.mp (hnone path))
  aside _ := rfl

/-- What is omitted as a whole is standard in all its settings. -/
theorem fallsBack_of_omitted (hwhole : omitted []) (standard before : σ) :
    setting.FallsBack omitted standard before standard where
  within _ _ _ := rfl
  aside haside := absurd List.nil_prefix (haside [] hwhole).1

/-- The record as a whole is as before if nothing is omitted. -/
theorem fallsBack_whole {standard before after : σ} (hwhole : omitted [] = false)
    (hkept : (∀ path, omitted path = false) → after = before) :
    whole.FallsBack omitted standard before after where
  within path homitted hpath := by
    rw [List.prefix_nil.mp hpath, hwhole] at homitted
    cases homitted
  aside haside := hkept fun path =>
    Bool.eq_false_iff.mpr fun homitted => (haside path homitted).2 List.nil_prefix

/-- What falls back inside a field falls back inside the record. -/
theorem FallsBack.under {name : String} {get : τ → σ} {standard before after : τ}
    (hfalls : setting.FallsBack (fun path => omitted (name :: path)) (get standard) (get before)
      (get after)) (hwhole : omitted [] = false) :
    (setting.under name get).FallsBack omitted standard before after where
  within path homitted hpath := by
    cases path with
    | nil => exact absurd homitted (Bool.eq_false_iff.mp hwhole)
    | cons first path =>
        obtain ⟨rfl, hrest⟩ := List.cons_prefix_cons.mp hpath
        exact hfalls.within path homitted hrest
  aside haside := by
    refine hfalls.aside fun path homitted => ?_
    obtain ⟨hpath, hsetting⟩ := haside (name :: path) homitted
    exact ⟨fun hstart => hpath (List.cons_prefix_cons.mpr ⟨rfl, hstart⟩),
      fun hstart => hsetting (List.cons_prefix_cons.mpr ⟨rfl, hstart⟩)⟩

end Setting

/-- A field of a record, with the settings inside it. -/
structure Field (σ : Type) where
  name : String
  {Content : Type}
  read : Reader Content
  /-- What is read where the field is left out. -/
  fallback : Content
  get : σ → Content
  inner : List (Setting Content)

/-- The field and all inside it as settings of the record. -/
def Field.settings (field : Field σ) : List (Setting σ) :=
  (Setting.whole :: field.inner).map (Setting.under field.name field.get)

def Setting.ofFields (fields : List (Field σ)) : List (Setting σ) := fields.flatMap Field.settings

namespace Field

@[reducible]
def Contents : List (Field σ) → Type
  | [] => Unit
  | field :: rest => field.Content × Contents rest

def contents (content : σ) : (fields : List (Field σ)) → Contents fields
  | [] => ()
  | field :: rest => (field.get content, contents content rest)

def readAll (dialect : Dialect) : (fields : List (Field σ)) → List Slot → Option (Contents fields)
  | [], [] => some ()
  | field :: rest, slot :: slots =>
    (slot.orElse field.read field.fallback dialect).bind fun content =>
      (readAll dialect rest slots).map fun others => (content, others)
  | [], _ :: _ | _ :: _, [] => none

/-- Reads each field from the slot at its place and makes a record of them. -/
def readInto (dialect : Dialect) :
    (fields : List (Field σ)) → List Slot → (Contents fields → σ) → Option σ
  | [], [], make => some (make ())
  | field :: rest, slot :: slots, make =>
    (slot.orElse field.read field.fallback dialect).bind fun content =>
      readInto dialect rest slots fun others => make (content, others)
  | [], _ :: _, _ | _ :: _, [], _ => none

variable {fields : List (Field σ)} {content : σ}

theorem readInto_eq {slots : List Slot} (make : Contents fields → σ) :
    readInto dialect fields slots make = (readAll dialect fields slots).map make := by
  induction fields generalizing slots with
  | nil => cases slots <;> rfl
  | cons field rest ih =>
      cases slots with
      | nil => rfl
      | cons slot slots =>
          rw [readInto, readAll]
          cases slot.orElse field.read field.fallback dialect with
          | none => rfl
          | some content =>
              exact (ih fun others => make (content, others)).trans (Option.map_map ..).symm

/-- Fields hold what is read in their slots. -/
theorem readAll_eq_contents_iff {slots : List Slot} :
    readAll dialect fields slots = some (contents content fields) ↔
      List.Forall₂ (fun field slot =>
        slot.orElse field.read field.fallback dialect = some (field.get content)) fields slots := by
  induction fields generalizing slots with
  | nil => cases slots <;> simp [readAll, contents]
  | cons field rest ih =>
      cases slots with
      | nil => simp [readAll]
      | cons slot slots =>
          rw [List.forall₂_cons, ← ih, readAll]
          constructor
          · intro hall
            obtain ⟨first, hfirst, hothers⟩ := Option.bind_eq_some_iff.mp hall
            obtain ⟨others, hothers, hboth⟩ := Option.map_eq_some_iff.mp hothers
            obtain ⟨rfl, rfl⟩ := Prod.mk.inj hboth
            exact ⟨hfirst, hothers⟩
          · rintro ⟨hfirst, hothers⟩
            rw [hfirst, Option.bind_some, hothers]
            rfl

theorem contents_eq_iff {left right : σ} :
    contents left fields = contents right fields ↔
      ∀ field ∈ fields, field.get left = field.get right := by
  induction fields with
  | nil => exact ⟨fun _ => List.forall_mem_nil _, fun _ => rfl⟩
  | cons field rest ih =>
      rw [List.forall_mem_cons, ← ih]
      exact Prod.ext_iff

theorem exists_contents {holds : (field : Field σ) → field.Content → Prop}
    (hfields : ∀ field ∈ fields, ∃ content, holds field content) :
    ∃ all : Contents fields, ∀ content, contents content fields = all →
      ∀ field ∈ fields, holds field (field.get content) := by
  induction fields with
  | nil => exact ⟨(), fun _ _ => List.forall_mem_nil _⟩
  | cons field rest ih =>
      obtain ⟨⟨first, hfirst⟩, hothers⟩ := List.forall_mem_cons.mp hfields
      obtain ⟨others, hothers⟩ := ih hothers
      refine ⟨(first, others), fun content hcontent => ?_⟩
      obtain ⟨rfl, hrest⟩ := Prod.mk.inj hcontent
      exact List.forall_mem_cons.mpr ⟨hfirst, hothers content hrest⟩

end Field

namespace Reader

/-- Whichever settings a document has, it is still read without them, and every setting falls
back. -/
def SparesOthers (read : Reader σ) (standard : σ) (settings : List (Setting σ)) : Prop :=
  ∀ dialect document content omitted, read dialect document = some content →
    (∀ path, omitted path → document.Has path ∧ ∃ setting ∈ settings, setting.path = path) →
    ∃ rest, read dialect (document.without omitted) = some rest ∧
      ∀ setting ∈ settings, setting.FallsBack omitted standard content rest

/-- A record is read field by field.  Its fields can be anything that is read in their places,
they are all there is of it, and the standard record has in each what is read where it is left
out. -/
structure Assembles (read : Reader σ) (standard : σ) (fields : List (Field σ)) : Prop where
  nodup : (fields.map Field.name).Nodup
  reads : ∀ {dialect document content}, read dialect document = some content ↔
    ∃ slots, Reader.slots (fields.map Field.name) dialect document = some slots ∧
      List.Forall₂ (fun field slot =>
        slot.orElse field.read field.fallback dialect = some (field.get content)) fields slots
  assemble : ∀ holds : (field : Field σ) → field.Content → Prop,
    (∀ field ∈ fields, ∃ content, holds field content) →
      ∃ content, ∀ field ∈ fields, holds field (field.get content)
  ext : ∀ left right, (∀ field ∈ fields, field.get left = field.get right) → left = right
  standard_eq : ∀ field ∈ fields, field.get standard = field.fallback

variable {read : Reader σ} {standard : σ} {fields : List (Field σ)} {field : Field σ}
  {members : List (Option String × Document)}

/-- A reader that knows nothing to leave out is given the whole document. -/
theorem sparesOthers_nil : SparesOthers read standard [] := by
  intro dialect document content omitted hread hsettings
  have hnone (path : List String) : omitted path = false := by
    rw [Bool.eq_false_iff]
    intro homitted
    obtain ⟨-, setting, hsetting, -⟩ := hsettings path homitted
    cases hsetting
  refine ⟨content, ?_, List.forall_mem_nil _⟩
  rw [Document.without_of_forall hnone, hread]

/-! ## Reading an object field by field -/

theorem mapM_eq_some_iff {α β : Type} {step : α → Option β} {list : List α} {results : List β} :
    list.mapM step = some results ↔
      List.Forall₂ (fun element result => step element = some result) list results := by
  induction list generalizing results with
  | nil => cases results <;> simp
  | cons first rest ih =>
      rw [List.forall₂_cons_left_iff, List.mapM_cons]
      simp only [Option.bind_eq_bind, Option.bind_eq_some_iff, ih]
      constructor
      · rintro ⟨result, hresult, others, hothers, hboth⟩
        cases hboth
        exact ⟨result, others, hresult, hothers, rfl⟩
      · rintro ⟨result, others, hresult, hothers, rfl⟩
        exact ⟨result, hresult, others, hothers, rfl⟩

theorem exists_slots_iff {holds : Field σ → Slot → Prop} :
    (∃ slots, (fields.map Field.name).mapM (memberSlot members) = some slots ∧
        List.Forall₂ holds fields slots) ↔
      ∀ field ∈ fields, ∃ slot, memberSlot members field.name = some slot ∧ holds field slot := by
  simp only [mapM_eq_some_iff, List.forall₂_map_left_iff]
  induction fields with
  | nil => simp
  | cons field rest ih =>
      rw [List.forall_mem_cons, ← ih]
      constructor
      · rintro ⟨_, _ | ⟨hslot, hslots⟩, _ | ⟨hfirst, hothers⟩⟩
        exact ⟨⟨_, hslot, hfirst⟩, _, hslots, hothers⟩
      · rintro ⟨⟨slot, hslot, hfirst⟩, slots, hslots, hothers⟩
        exact ⟨slot :: slots, .cons hslot hslots, .cons hfirst hothers⟩

theorem length_of_slots {names : List String} {document : Document} {slots : List Slot}
    (hslots : Reader.slots names dialect document = some slots) : slots.length = names.length := by
  unfold Reader.slots at hslots
  split at hslots
  · split at hslots
    · exact (mapM_eq_some_iff.mp hslots).length_eq.symm
    · cases hslots
  · split at hslots
    · rw [← Option.some.inj hslots, List.length_map, List.length_range]
    · cases hslots
  · cases hslots

/-! ## Records made of their contents -/

/-- A record that is made of the contents of its fields, and read from as many slots as it has
fields. -/
theorem Assembles.of_make (names : List String) (make : Field.Contents fields → σ)
    (hnames : fields.map Field.name = names) (hnodup : names.Nodup)
    (hmake : ∀ content, make (Field.contents content fields) = content)
    (hcontents : ∀ all, Field.contents (make all) fields = all)
    (hnone : ∀ dialect document, Reader.slots names dialect document = none →
      read dialect document = none)
    (hsome : ∀ dialect document slots, Reader.slots names dialect document = some slots →
      slots.length = names.length →
        read dialect document = Field.readInto dialect fields slots make)
    (hstandard : ∀ field ∈ fields, field.get standard = field.fallback) :
    Assembles read standard fields where
  nodup := hnames ▸ hnodup
  reads {dialect document content} := by
    rw [hnames]
    cases hslots : Reader.slots names dialect document with
    | none => simp [hnone dialect document hslots]
    | some slots =>
        rw [hsome dialect document slots hslots (length_of_slots hslots), Field.readInto_eq]
        simp only [Option.some.injEq, exists_eq_left', ← Field.readAll_eq_contents_iff,
          Option.map_eq_some_iff]
        constructor
        · rintro ⟨all, hall, rfl⟩
          rw [hcontents, hall]
        · exact fun hall => ⟨_, hall, hmake content⟩
  assemble holds hfields := by
    obtain ⟨all, hall⟩ := Field.exists_contents hfields
    exact ⟨make all, hall _ (hcontents all)⟩
  ext left right hfields := by
    rw [← hmake left, ← hmake right, Field.contents_eq_iff.mpr hfields]
  standard_eq := hstandard

namespace Assembles

/-- An object is read field by field, where all its members have names. -/
theorem read_object_iff (hrecord : Assembles read standard fields) {content : σ} :
    read dialect (.object members) = some content ↔
      members.all (fun member => member.1.isSome) = true ∧
        ∀ field ∈ fields, ∃ slot, memberSlot members field.name = some slot ∧
          slot.orElse field.read field.fallback dialect = some (field.get content) := by
  rw [hrecord.reads, ← exists_slots_iff, Reader.slots]
  cases members.all fun member => member.1.isSome <;> simp

/-- The standard record is what is read of an object without members. -/
theorem read_empty (hrecord : Assembles read standard fields) :
    read dialect (.object []) = some standard := by
  refine hrecord.read_object_iff.mpr ⟨rfl, fun field hfield => ⟨.absent, rfl, ?_⟩⟩
  rw [hrecord.standard_eq field hfield]
  rfl

/-- A path to a setting that goes on behind a field leads to a setting inside that field. -/
theorem exists_inner (hrecord : Assembles read standard fields) (hfield : field ∈ fields)
    {path : List String} (hpath : path ≠ [])
    (hsetting : ∃ setting ∈ Setting.ofFields fields, setting.path = field.name :: path) :
    ∃ setting ∈ field.inner, setting.path = path := by
  obtain ⟨_, hmem, hnames⟩ := hsetting
  obtain ⟨other, hother, hunder⟩ := List.mem_flatMap.mp hmem
  obtain ⟨setting, hsetting, rfl⟩ := List.mem_map.mp hunder
  obtain ⟨hname, rfl⟩ := List.cons.inj hnames
  obtain rfl := List.inj_on_of_nodup_map hrecord.nodup hother hfield hname
  rcases List.mem_cons.mp hsetting with hwhole | hinner
  · exact absurd (congrArg Setting.path hwhole) hpath
  · exact ⟨setting, hinner, rfl⟩

end Assembles

/-! ## Leaving settings out -/

/-- What is read of one field when settings at and inside it are left out. -/
theorem exists_fallsBack {slot : Slot} {content : field.Content}
    (hinner : SparesOthers field.read field.fallback field.inner)
    (hslot : memberSlot members field.name = some slot)
    (hread : slot.orElse field.read field.fallback dialect = some content)
    (homitted : ∀ path, omitted (field.name :: path) →
      (Document.object members).Has (field.name :: path) ∧
        (path ≠ [] → ∃ setting ∈ field.inner, setting.path = path)) :
    ∃ rest, (slot.without omitted field.name).orElse field.read field.fallback dialect =
        some rest ∧
      ∀ setting ∈ Setting.whole :: field.inner,
        setting.FallsBack (fun path => omitted (field.name :: path)) field.fallback content
          rest := by
  cases hgone : omitted [field.name] with
  | true =>
      -- the field itself is left out
      refine ⟨field.fallback, ?_, fun _ _ => Setting.fallsBack_of_omitted hgone _ _⟩
      cases slot <;> simp [Slot.without, hgone, Slot.orElse]
  | false =>
      obtain ⟨rfl, habsent⟩ | ⟨document, rfl, honly⟩ := memberSlot_cases hslot
      · -- there is nothing to leave out
        have hnone (path : List String) : omitted (field.name :: path) = false := by
          rw [Bool.eq_false_iff]
          intro hpath
          obtain ⟨document, hdocument, -⟩ := (homitted path hpath).1
          exact habsent document hdocument
        exact ⟨content, hread, fun _ _ => Setting.fallsBack_of_forall hnone _ _⟩
      · -- what is left out is inside the field
        rw [Slot.orElse_given] at hread
        obtain ⟨rest, hrest, hfalls⟩ := hinner dialect document content _ hread fun path hpath => by
          obtain ⟨⟨other, hother, hhas⟩, hsetting⟩ := homitted path hpath
          obtain rfl := honly other hother
          refine ⟨hhas, hsetting ?_⟩
          rintro rfl
          exact absurd hpath (Bool.eq_false_iff.mp hgone)
        refine ⟨rest, by simpa [Slot.without, hgone] using hrest,
          List.forall_mem_cons.mpr ⟨Setting.fallsBack_whole hgone fun hnone => ?_, hfalls⟩⟩
        rw [Document.without_of_forall hnone, hread] at hrest
        exact (Option.some.inj hrest).symm

/-- A record spares its other settings if each of its fields does. -/
theorem Assembles.sparesOthers (hrecord : Assembles read standard fields)
    (hinner : ∀ field ∈ fields, SparesOthers field.read field.fallback field.inner) :
    SparesOthers read standard (Setting.ofFields fields) := by
  intro dialect document content omitted hread homitted
  have hwhole : omitted [] = false := by
    rw [Bool.eq_false_iff]
    intro hpath
    obtain ⟨-, setting, hsetting, hnil⟩ := homitted [] hpath
    obtain ⟨field, -, hsetting⟩ := List.mem_flatMap.mp hsetting
    obtain ⟨setting, -, rfl⟩ := List.mem_map.mp hsetting
    cases hnil
  cases document with
  | object members =>
      obtain ⟨hnames, hfields⟩ := hrecord.read_object_iff.mp hread
      obtain ⟨rest, hrest⟩ := hrecord.assemble
        (fun field after => (∃ slot, memberSlot (membersWithout omitted members) field.name =
            some slot ∧ slot.orElse field.read field.fallback dialect = some after) ∧
          ∀ setting ∈ Setting.whole :: field.inner,
            setting.FallsBack (fun path => omitted (field.name :: path)) field.fallback
              (field.get content) after) fun field hfield => by
          obtain ⟨slot, hslot, hcontent⟩ := hfields field hfield
          obtain ⟨after, hafter, hfalls⟩ := exists_fallsBack (hinner field hfield) hslot hcontent
            fun path hpath => ⟨(homitted _ hpath).1, fun hnil =>
              hrecord.exists_inner hfield hnil (homitted _ hpath).2⟩
          exact ⟨after, ⟨_, memberSlot_membersWithout hslot, hafter⟩, hfalls⟩
      refine ⟨rest, ?_, fun setting hsetting => ?_⟩
      · rw [Document.without]
        exact hrecord.read_object_iff.mpr ⟨Document.all_isSome_membersWithout hnames,
          fun field hfield => (hrest field hfield).1⟩
      · obtain ⟨field, hfield, hunder⟩ := List.mem_flatMap.mp hsetting
        obtain ⟨inner, hinner, rfl⟩ := List.mem_map.mp hunder
        refine Setting.FallsBack.under ?_ hwhole
        rw [hrecord.standard_eq field hfield]
        exact (hrest field hfield).2 inner hinner
  | _ =>
      have hnone (path : List String) : omitted path = false := by
        cases path with
        | nil => exact hwhole
        | cons name path => exact Bool.eq_false_iff.mpr fun hpath => (homitted _ hpath).1
      rw [Document.without_of_forall hnone]
      exact ⟨content, hread, fun _ _ => Setting.fallsBack_of_forall hnone _ _⟩

/-- A record may be given in part: it is read of nothing at all as the standard record, and without
any of its settings as before in all the others; and its settings are all there is of it. -/
structure MayBePartial (read : Reader σ) (standard : σ) (fields : List (Field σ)) : Prop where
  read_empty : ∀ dialect, read dialect (.object []) = some standard
  sparesOthers : SparesOthers read standard (Setting.ofFields fields)
  determined : ∀ left right,
    (∀ setting ∈ Setting.ofFields fields, setting.get left = setting.get right) → left = right

/-- A record that is read field by field may be given in part if each field may. -/
theorem Assembles.mayBePartial (hrecord : Assembles read standard fields)
    (hinner : ∀ field ∈ fields, SparesOthers field.read field.fallback field.inner) :
    MayBePartial read standard fields where
  read_empty _ := hrecord.read_empty
  sparesOthers := hrecord.sparesOthers hinner
  determined left right hsettings := hrecord.ext left right fun field hfield =>
    hsettings (Setting.whole.under field.name field.get)
      (List.mem_flatMap.mpr ⟨field, hfield, List.mem_cons_self⟩)

end Reader
end Plugboard
