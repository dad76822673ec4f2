import Dialogue.Proofs.Lists
import Dialogue.Proofs.Projection
import Dialogue.Settings.Basic

/-!
# Fields of interest

A record is cut down to the fields of interest of its entity.  They are looked for among the
declarations by the name of the entity, and markers do not count, neither in the name that is given
nor in those that were declared.  So it does not matter how an entity is marked, nor whether the
declarations come from a configuration, which keeps the names as they were written, or one after the
other from a script, which keeps them stripped.

* `Projection.Declares`, `Projection.Unambiguous` — what was declared of an entity, and that it was
  declared once.
* `Projection.Keeps` — which fields stay.
* `find?_project` — what is left of a record.
* `Projection.declare`, `declares_declare` — declarations that are made one after the other.
* **`projection_is_exact`** — cutting down is exact, and does not depend on how the fields of
  interest were declared.
-/

namespace Dialogue

/-- The first piece of a text ends where the separator comes first. -/
lemma head?_splitAt (separator : Char) (cs : List Char) :
    (splitAt separator cs).head? = some (cs.takeWhile (· != separator)) := by
  induction cs with
  | nil => rfl
  | cons c cs ih =>
      rw [splitAt]
      cases hcut : splitAt separator cs with
      | nil =>
          rw [hcut] at ih
          cases ih
      | cons w ws =>
          rw [hcut] at ih
          obtain rfl := Option.some.inj ih
          by_cases hc : c = separator
          · simp [hc]
          · simp [hc]

namespace Projection

lemma head?_segments (name : String) :
    (segments name).head? = some (topSegment name).toList := by
  rw [segments, head?_splitAt, topSegment, String.toList_ofList]

variable {p : Projection} {entity name : String} {fields : List String}

/-! ## Declarations -/

/-- Fields of interest of the entity were declared, under a name that is the same when the markers
are taken off. -/
def Declares (p : Projection) (entity : String) (fields : List String) : Prop :=
  ∃ name, p.interest.find? name = some fields ∧ p.strip name = p.strip entity

/-- No two names of entities are the same without their markers. -/
def Unambiguous (p : Projection) : Prop := (p.interest.names.map p.strip).Nodup

instance (p : Projection) : Decidable p.Unambiguous :=
  inferInstanceAs (Decidable (p.interest.names.map p.strip).Nodup)

/-- The name is the first dotted segment of one of the fields, without its markers. -/
def Heads (p : Projection) (fields : List String) (name : String) : Prop :=
  ∃ field ∈ fields, (segments (p.strip field)).head? = some name.toList

/-- Which fields of an entity stay: all of them if nothing was declared, otherwise the id and those
in which a field of interest lies. -/
def Keeps (p : Projection) (entity name : String) : Prop :=
  (∀ fields, ¬ p.Declares entity fields) ∨ name = "Id" ∨
    ∃ fields, p.Declares entity fields ∧ p.Heads fields name

/-- What was declared of an entity was declared once. -/
lemma Unambiguous.unique (h : p.Unambiguous) {fields' : List String}
    (hfields : p.Declares entity fields) (hfields' : p.Declares entity fields') :
    fields = fields' := by
  obtain ⟨name, hname, hstrip⟩ := hfields
  obtain ⟨name', hname', hstrip'⟩ := hfields'
  have hmem : name ∈ p.interest.names := Dict.mem_names.mpr (by simp [hname])
  have hmem' : name' ∈ p.interest.names := Dict.mem_names.mpr (by simp [hname'])
  obtain rfl := List.inj_on_of_nodup_map h hmem hmem' (hstrip.trans hstrip'.symm)
  exact Option.some.inj (hname.symm.trans hname')

lemma kept?_eq_none_iff : p.kept? entity = none ↔ ∀ fields, ¬ p.Declares entity fields := by
  rw [kept?, Option.map_eq_none_iff, List.find?_eq_none]
  constructor
  · rintro h fields ⟨name, hname, hstrip⟩
    exact h _ (Dict.mem_entries.mpr hname) (beq_iff_eq.mpr hstrip)
  · rintro h ⟨name, fields⟩ hmem hstrip
    exact h fields ⟨name, Dict.mem_entries.mp hmem, beq_iff_eq.mp hstrip⟩

/-- The fields that are kept are the first segments of what was declared. -/
lemma declares_of_kept? {kept : List String} (h : p.kept? entity = some kept) :
    ∃ fields, p.Declares entity fields ∧ ∀ name, name ∈ kept ↔ p.Heads fields name := by
  obtain ⟨⟨name, fields⟩, hfind, rfl⟩ := Option.map_eq_some_iff.mp h
  have hmem := Dict.mem_entries.mp (List.mem_of_find?_eq_some hfind)
  have hstrip : p.strip name = p.strip entity := by simpa using List.find?_some hfind
  refine ⟨fields, ⟨name, hmem, hstrip⟩, fun top => ?_⟩
  rw [mem_foldl_new, List.mem_map]
  simp [Heads, head?_segments, String.toList_inj]

/-! ## What is left of a record -/

/-- **What is left of a record**: the fields that stay, with their values. -/
theorem find?_project (h : p.Unambiguous) {record : Record} {value : Json} :
    (p.project entity record).find? name = some value ↔
      record.find? name = some value ∧ p.Keeps entity name := by
  rw [project]
  cases hkept : p.kept? entity with
  | none => simp [Keeps, kept?_eq_none_iff.mp hkept]
  | some kept =>
      obtain ⟨fields, hfields, hmem⟩ := declares_of_kept? hkept
      have hkeeps : p.Keeps entity name ↔ name ∈ kept ∨ name = "Id" := by
        rw [hmem, Keeps]
        constructor
        · rintro (hnone | hid | ⟨fields', hfields', htop⟩)
          · exact absurd hfields (hnone fields)
          · exact .inr hid
          · exact .inl (h.unique hfields' hfields ▸ htop)
        · rintro (htop | hid)
          · exact .inr (.inr ⟨fields, hfields, htop⟩)
          · exact .inr (.inl hid)
      rw [Dict.find?_filter_eq_some_iff, hkeeps]
      simp

/-- **Cutting down twice is cutting down once.** -/
theorem project_project (h : p.Unambiguous) (entity : String) (record : Record) :
    p.project entity (p.project entity record) = p.project entity record := by
  refine Dict.ext_find? fun name => Option.ext fun value => ?_
  rw [find?_project h, find?_project h, and_assoc, and_self]

/-- Names that are the same without markers stand for the same entity. -/
lemma project_congr {entity' : String} (h : p.strip entity = p.strip entity') :
    p.project entity = p.project entity' := by
  funext record
  rw [project, project, kept?, kept?, h]

/-- What is left of a record depends on what was declared, and not on how. -/
lemma project_congr_of_declares {q : Projection} (hp : p.Unambiguous) (hq : q.Unambiguous)
    (hstrip : p.strip = q.strip)
    (h : ∀ entity fields, p.Declares entity fields ↔ q.Declares entity fields) :
    p.project = q.project := by
  funext entity record
  refine Dict.ext_find? fun name => Option.ext fun value => ?_
  rw [find?_project hp, find?_project hq, Keeps, Keeps]
  simp only [h, Heads, hstrip]

/-! ## Declarations made one after the other -/

/-- The projection after fields of interest were declared, one entity after the other. -/
def declare (p : Projection) (ds : List (String × List String)) : Projection :=
  ds.foldl (fun p d => p.withFields d.1 d.2) p

lemma marker_declare (p : Projection) (ds : List (String × List String)) :
    (p.declare ds).marker = p.marker := by
  induction ds generalizing p with
  | nil => rfl
  | cons d ds ih => exact ih (p.withFields d.1 d.2)

/-- The declarations are kept under stripped names. -/
lemma interest_declare (p : Projection) (ds : List (String × List String)) :
    (p.declare ds).interest = p.interest.overwrite (ds.map fun d => (p.strip d.1, d.2)) := by
  induction ds generalizing p with
  | nil => rfl
  | cons d ds ih =>
      have hstrip : (p.withFields d.1 d.2).strip = p.strip := strip_eq rfl
      have hrest := ih (p.withFields d.1 d.2)
      rw [hstrip] at hrest
      exact hrest

section Declare

variable {marker : Char} {ds : List (String × List String)}

lemma strip_declare : ((ofMarker marker).declare ds).strip = (ofMarker marker).strip :=
  strip_eq (marker_declare _ ds)

variable (h : (ds.map fun d => (ofMarker marker).strip d.1).Nodup)
include h

lemma find?_declare {name : String} {fields : List String} :
    ((ofMarker marker).declare ds).interest.find? name = some fields ↔
      ∃ d ∈ ds, (ofMarker marker).strip d.1 = name ∧ d.2 = fields := by
  have hnames : ((ds.map fun d => ((ofMarker marker).strip d.1, d.2)).map (·.1)).Nodup := by
    rwa [List.map_map]
  rw [interest_declare]
  refine (Dict.find?_ofList_eq_some_iff hnames).trans (List.mem_map.trans ?_)
  refine exists_congr fun d => and_congr_right fun _ => ?_
  rw [Prod.mk.injEq]

/-- **What was declared one after the other** is what was declared, whatever the order. -/
lemma declares_declare {entity : String} {fields : List String} :
    ((ofMarker marker).declare ds).Declares entity fields ↔
      ∃ d ∈ ds, (ofMarker marker).strip d.1 = (ofMarker marker).strip entity ∧ d.2 = fields := by
  rw [Declares, strip_declare]
  constructor
  · rintro ⟨name, hname, hstrip⟩
    obtain ⟨d, hd, rfl, hfields⟩ := (find?_declare h).mp hname
    rw [strip_strip] at hstrip
    exact ⟨d, hd, hstrip, hfields⟩
  · rintro ⟨d, hd, hstrip, hfields⟩
    exact ⟨_, (find?_declare h).mpr ⟨d, hd, rfl, hfields⟩, by rw [strip_strip, hstrip]⟩

lemma unambiguous_declare : ((ofMarker marker).declare ds).Unambiguous := by
  rw [Unambiguous, strip_declare]
  have hstripped : ∀ name ∈ ((ofMarker marker).declare ds).interest.names,
      (ofMarker marker).strip name = name := by
    intro name hname
    obtain ⟨fields, hfields⟩ := Option.ne_none_iff_exists'.mp (Dict.mem_names.mp hname)
    obtain ⟨d, _, rfl, _⟩ := (find?_declare h).mp hfields
    rw [strip_strip]
  rw [List.map_congr_left hstripped, List.map_id']
  exact Dict.nodup_names _

end Declare

/-- **It does not matter who declares**: the names are stripped one after the other, in any order,
or left as they are written. -/
theorem project_declare (h : p.Unambiguous) {ds : List (String × List String)}
    (hds : ds.Perm p.interest.entries) : ((ofMarker p.marker).declare ds).project = p.project := by
  have hstrip : (ofMarker p.marker).strip = p.strip := (strip_eq (p := p) rfl).symm
  have hperm : (ds.map fun d => p.strip d.1).Perm (p.interest.names.map p.strip) := by
    rw [Dict.names, List.map_map]
    exact hds.map _
  have hnodup : (ds.map fun d => (ofMarker p.marker).strip d.1).Nodup := by
    rw [hstrip]
    exact hperm.nodup_iff.mpr h
  refine project_congr_of_declares (unambiguous_declare hnodup) h (strip_declare.trans hstrip)
    fun entity fields => ?_
  rw [declares_declare hnodup, hstrip]
  constructor
  · rintro ⟨⟨name, fields⟩, hmem, hname, rfl⟩
    exact ⟨name, Dict.mem_entries.mp (hds.mem_iff.mp hmem), hname⟩
  · rintro ⟨name, hfields, hname⟩
    exact ⟨(name, fields), hds.mem_iff.mpr (Dict.mem_entries.mpr hfields), hname, rfl⟩

/-! ## Fields of records -/

section Fields

variable {record : Record} (h : (record.names.map p.strip).Nodup)
include h

lemma nodup_stripped : ((record.entries.map fun e => (p.strip e.1, e.2)).map (·.1)).Nodup := by
  rw [List.map_map]
  rwa [Dict.names, List.map_map] at h

/-- **The fields of a record without markers**, if no two of them become the same: each is there
with its value, and nothing else is. -/
lemma find?_stripFields {value : Json} : (p.stripFields record).find? name = some value ↔
    ∃ field, record.find? field = some value ∧ p.strip field = name := by
  rw [stripFields, Dict.find?_ofList_eq_some_iff (nodup_stripped h), List.mem_map]
  constructor
  · rintro ⟨e, he, heq⟩
    cases heq
    exact ⟨e.1, Dict.mem_entries.mp he, rfl⟩
  · rintro ⟨field, hfield, rfl⟩
    exact ⟨(field, value), Dict.mem_entries.mpr hfield, rfl⟩

lemma size_stripFields : (p.stripFields record).size = record.size := by
  rw [Dict.size, stripFields, (Dict.perm_entries_ofList (nodup_stripped h)).length_eq,
    List.length_map, Dict.size]

end Fields

end Projection

/-- **Projection is exact, and it does not matter how the fields of interest were declared.**  Let a
configuration declare fields of interest of entities, no two of which have the same name without
markers.  A field of a record stays, with its value, exactly if nothing was declared of the entity,
or the field is the id, or it is the first dotted segment of a field that was declared, without
markers; nothing is added.  Cutting down twice is cutting down once.  It does not matter whether the
entity is named with markers or without, unless the marker is a dot.  And the result is the same
if a script makes the declarations one after the other, in any order.  The fields of a record to be
stored keep their values under their names without markers, all of them, if no two of these names
are the same. -/
theorem projection_is_exact {s : SourceSettings} (h : s.projection.Unambiguous) :
    let p := s.projection
    (∀ entity record name value, (p.project entity record).find? name = some value ↔
      record.find? name = some value ∧ p.Keeps entity name) ∧
    (∀ entity record, p.project entity (p.project entity record) = p.project entity record) ∧
    (∀ entity record, p.project (p.strip entity) record = p.project entity record) ∧
    (p.marker ≠ '.' → ∀ meant given, p.Marks meant given →
      ∀ record, p.project given record = p.project meant record) ∧
    (∀ ds, ds.Perm s.interest.entries → ∀ entity record,
      ((Projection.ofMarker s.marker).declare ds).project entity record =
        p.project entity record) ∧
    ∀ record : Record, (record.names.map p.strip).Nodup →
      (∀ name value, (p.stripFields record).find? name = some value ↔
        ∃ field, record.find? field = some value ∧ p.strip field = name) ∧
      (p.stripFields record).size = record.size := by
  intro p
  refine ⟨fun _ _ _ _ => Projection.find?_project h, Projection.project_project h, ?stripped,
    ?marked, ?declared, ?fields⟩
  case stripped =>
    intro entity record
    rw [Projection.project_congr (p.strip_strip entity)]
  case marked =>
    intro hdot meant given hmarks record
    rw [Projection.project_congr (p.strip_eq_of_marks hdot hmarks)]
  case declared =>
    intro ds hds entity record
    rw [← Projection.project_declare h hds]
    rfl
  case fields =>
    intro record hnames
    exact ⟨fun _ _ => Projection.find?_stripFields hnames, Projection.size_stripFields hnames⟩

/-- Events and leads are of interest, with some of their fields. -/
def calendarSettings : SourceSettings :=
  { SourceSettings.default with
    interest := .ofList
      [("Event*", ["StartDateTime*", "Subject*", "Who*.Name*"]), ("Lead*", ["Name*"])] }

/-- An event in a room. -/
def standup : Record :=
  .ofList [("Id", .str "e1"), ("Location", .str "Room 4"), ("Subject", .str "Standup"),
    ("Who", .obj [("Name", .str "Mary Stewart")])]

/-- The standup keeps whom it is with and loses its room, whether it is an `Event` or an `Event*`,
and also if leads were declared before events.  A lead that is stored keeps its name. -/
theorem standup_loses_its_room :
    let p := calendarSettings.projection
    let lead : Record := .ofList [("Company*", .str "ACME"), ("Name*", .str "Ann")]
    p.Unambiguous ∧ (p.project "Event" standup).find? "Who" = standup.find? "Who" ∧
      (p.project "Event" standup).find? "Location" = none ∧
      p.project "Event*" standup = p.project "Event" standup ∧
      ((Projection.ofMarker '*').declare [("Lead*", ["Name*"]),
        ("Event*", ["StartDateTime*", "Subject*", "Who*.Name*"])]).project "Event" standup =
          p.project "Event" standup ∧
      (p.stripFields lead).find? "Name" = some (.str "Ann") := by
  intro p lead
  have hp : p.Unambiguous := by decide
  obtain ⟨hexact, -, -, hmarks, hdeclare, hfields⟩ := projection_is_exact hp
  have hevent : p.Declares "Event" ["StartDateTime*", "Subject*", "Who*.Name*"] :=
    ⟨"Event*", by decide, by decide⟩
  refine ⟨hp, ?who, ?room, ?marked, hdeclare _ (.swap _ _ []) _ _, ?name⟩
  case who =>
    refine (hexact _ _ _ _).mpr ⟨rfl, .inr (.inr ⟨_, hevent, ?_⟩)⟩
    exact ⟨"Who*.Name*", by decide, by decide⟩
  case room =>
    refine Option.eq_none_iff_forall_ne_some.mpr fun value hvalue => ?_
    rcases ((hexact _ _ _ _).mp hvalue).2 with hnone | hid | ⟨fields, hfields, field, hmem, htop⟩
    · exact hnone _ hevent
    · exact absurd hid (by decide)
    · obtain rfl := hp.unique hfields hevent
      revert htop
      revert field
      decide
  case marked =>
    refine hmarks (by decide) "Event" "Event*" ⟨["Event*".toList], by decide, ?_⟩ standup
    exact .cons (.inr rfl) .nil
  case name =>
    exact ((hfields lead (by decide)).1 _ _).mpr ⟨"Name*", by decide, by decide⟩

end Dialogue
