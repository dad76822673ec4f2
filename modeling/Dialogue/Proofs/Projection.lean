import Dialogue.Projection
import Dialogue.Proofs.Dict
import Dialogue.Proofs.Text.Trimming

/-!
# Marked names

A name is marked by writing the marker behind some of its dotted segments, and stripping takes the
markers off again.  This works as long as the marker is not the dot: names are cut at their dots, so
a dot behind a segment begins another one, which is empty, and nothing is stripped.

* `Projection.Marks` — a given name is a name with the marker behind some of its segments;
  `strip_of_marks` says that stripping gives the name back, `strip_of_dot` that a dot strips nothing.
* `Projection.Bare` — no segment ends with the marker; `bare_strip` says that no stripped name has
  such a segment, and **`strip_strip`** that stripping twice is stripping once.
* `stripFields_ofList` — the fields of a record without their markers, if their names stay distinct.
* `Projection.Cleans`, `Projection.CleansFields` — what is sent in place of a name that was given,
  and in place of the fields of a record; `cleans_strip` and `cleansFields_stripFields`.
-/

namespace Dialogue

/-! ## Cutting and joining -/

lemma splitAt_eq (separator : Char) (cs : List Char) :
    splitAt separator cs = cs.splitOn separator := by
  induction cs with
  | nil => rfl
  | cons c cs ih =>
      rw [splitAt, ih, List.splitOn_cons_eq_if_modifyHead]
      cases hcut : cs.splitOn separator with
      | nil => exact absurd hcut (List.splitOn_ne_nil _ _)
      | cons w ws => rfl

lemma joinWith_eq (separator : Char) (ws : List (List Char)) :
    joinWith separator ws = [separator].intercalate ws := by
  induction ws with
  | nil => rfl
  | cons w ws ih =>
      cases ws with
      | nil => simp [joinWith]
      | cons v vs =>
          rw [joinWith, ih, List.intercalate_cons_cons, List.append_assoc, List.singleton_append]
          exact List.cons_ne_nil v vs

/-- No piece contains the separator. -/
lemma not_mem_of_mem_splitAt {separator : Char} :
    ∀ {cs : List Char}, ∀ w ∈ splitAt separator cs, separator ∉ w
  | [], w, hw => by
      rw [List.mem_singleton.mp hw]
      exact List.not_mem_nil
  | c :: cs, w, hw => by
      have ih := @not_mem_of_mem_splitAt separator cs
      rw [splitAt] at hw
      cases hcut : splitAt separator cs with
      | nil =>
          rw [splitAt_eq] at hcut
          exact absurd hcut (List.splitOn_ne_nil _ _)
      | cons v vs =>
          rw [hcut] at hw ih
          dsimp only at hw
          split at hw
          · rcases List.mem_cons.mp hw with rfl | hw
            · exact List.not_mem_nil
            · exact ih w hw
          · rename_i hc
            rcases List.mem_cons.mp hw with rfl | hw
            · intro hmem
              rcases List.mem_cons.mp hmem with rfl | hmem
              · exact hc (beq_self_eq_true _)
              · exact ih v List.mem_cons_self hmem
            · exact ih w (List.mem_cons_of_mem _ hw)

namespace Projection

/-- The segments of a dotted name. -/
def segments (name : String) : List (List Char) := splitAt '.' name.toList

/-- The dotted name with given segments. -/
def ofSegments (ws : List (List Char)) : String := String.ofList (joinWith '.' ws)

@[simp] lemma ofSegments_segments (name : String) : ofSegments (segments name) = name := by
  rw [ofSegments, segments, joinWith_eq, splitAt_eq, List.intercalate_splitOn, String.ofList_toList]

lemma segments_ofSegments {ws : List (List Char)} (hne : ws ≠ []) (hws : ∀ w ∈ ws, '.' ∉ w) :
    segments (ofSegments ws) = ws := by
  rw [segments, ofSegments, String.toList_ofList, joinWith_eq, splitAt_eq,
    List.splitOn_intercalate '.' hws hne]

lemma segments_ne_nil (name : String) : segments name ≠ [] := by
  rw [segments, splitAt_eq]
  exact List.splitOn_ne_nil _ _

/-- A character of a segment is one of the name. -/
lemma mem_toList_of_mem_segments {name : String} {c : Char} {w : List Char}
    (hw : w ∈ segments name) (hc : c ∈ w) : c ∈ name.toList := by
  rw [← ofSegments_segments name, ofSegments, String.toList_ofList, joinWith_eq]
  generalize segments name = ws at hw
  induction ws with
  | nil => cases hw
  | cons v vs ih =>
      cases vs with
      | nil =>
          rw [List.intercalate_singleton]
          exact List.mem_singleton.mp hw ▸ hc
      | cons u us =>
          rw [List.intercalate_cons_cons, List.append_assoc]
          rcases List.mem_cons.mp hw with rfl | hw
          · exact List.mem_append_left _ hc
          · exact List.mem_append_right _ (List.mem_append_right _ (ih hw))

variable (p : Projection) {name given meant : String}

/-! ## Stripping -/

/-- Names are stripped by the marker alone. -/
lemma strip_eq {p : Projection} {marker : Char} (h : p.marker = marker) :
    p.strip = (ofMarker marker).strip := by
  funext name
  rw [strip, h]
  rfl

/-- A segment without the markers at its end. -/
def trimmed (w : List Char) : List Char := w.rdropWhile (· == p.marker)

lemma trimmed_of_not_mem {w : List Char} (h : p.marker ∉ w) : p.trimmed w = w := by
  refine List.rdropWhile_eq_self_iff.mpr fun hne hlast => h ?_
  rw [← beq_iff_eq.mp hlast]
  exact List.getLast_mem hne

/-- Segments without the marker stay as they are. -/
lemma map_trimmed_eq_self {ws : List (List Char)} (h : ∀ w ∈ ws, p.marker ∉ w) :
    ws.map p.trimmed = ws :=
  (List.map_congr_left fun w hw => p.trimmed_of_not_mem (h w hw)).trans (List.map_id _)

/-- **Stripping trims every segment.** -/
lemma strip_eq_ofSegments (name : String) :
    p.strip name = ofSegments ((segments name).map p.trimmed) := by
  have htrim : Text.trimEndWhile (· == p.marker) = p.trimmed := by
    funext w
    exact Text.trimEndWhile_eq w
  rw [strip]
  split
  · rw [htrim]
    rfl
  · rename_i hnone
    have hunmarked : ∀ w ∈ segments name, p.marker ∉ w := fun w hw hmem =>
      hnone (List.contains_iff_mem.mpr (mem_toList_of_mem_segments hw hmem))
    rw [p.map_trimmed_eq_self hunmarked, ofSegments_segments]

/-- The dots stay where they are. -/
lemma segments_strip (name : String) :
    segments (p.strip name) = (segments name).map p.trimmed := by
  rw [strip_eq_ofSegments, segments_ofSegments]
  · exact mt List.map_eq_nil_iff.mp (segments_ne_nil name)
  · intro w hw
    obtain ⟨v, hv, rfl⟩ := List.mem_map.mp hw
    exact fun hmem => not_mem_of_mem_splitAt v hv ((List.rdropWhile_prefix _ v).subset hmem)

/-- **Stripping twice is stripping once.** -/
theorem strip_strip (name : String) : p.strip (p.strip name) = p.strip name := by
  rw [strip_eq_ofSegments p (p.strip name), segments_strip, List.map_map, strip_eq_ofSegments]
  congr 1
  exact List.map_congr_left fun w _ => List.rdropWhile_idempotent _ w

/-- **The fields of a record without markers**, if no two of them become the same. -/
lemma stripFields_ofList {es : List (String × Json)} (h : (es.map fun e => p.strip e.1).Nodup) :
    p.stripFields (.ofList es) = .ofList (es.map fun e => (p.strip e.1, e.2)) := by
  have hnames : (es.map (·.1)).Nodup := by
    have hcomp : es.map (fun e => p.strip e.1) = (es.map (·.1)).map p.strip := by
      rw [List.map_map]
      rfl
    exact (hcomp ▸ h).of_map
  have hperm := (Dict.perm_entries_ofList hnames).map fun e => (p.strip e.1, e.2)
  have hstripped : ((es.map fun e => (p.strip e.1, e.2)).map (·.1)).Nodup := by
    rw [List.map_map]
    exact h
  refine Dict.ext_find? fun name => Option.ext fun value => ?_
  rw [stripFields, Dict.find?_ofList_eq_some_iff hstripped,
    Dict.find?_ofList_eq_some_iff ((hperm.map (·.1)).nodup_iff.mpr hstripped)]
  exact hperm.mem_iff

/-! ## Marking -/

/-- No segment of the name contains the marker. -/
def Unmarked (name : String) : Prop := ∀ w ∈ segments name, p.marker ∉ w

instance (name : String) : Decidable (p.Unmarked name) :=
  inferInstanceAs (Decidable (∀ w ∈ segments name, p.marker ∉ w))

/-- Nothing is stripped from a name without markers. -/
lemma strip_of_unmarked (h : p.Unmarked name) : p.strip name = name := by
  rw [strip_eq_ofSegments, p.map_trimmed_eq_self h, ofSegments_segments]

/-- A dot strips nothing: no segment contains one. -/
lemma strip_of_dot (h : p.marker = '.') (name : String) : p.strip name = name :=
  p.strip_of_unmarked fun _ hw => h ▸ not_mem_of_mem_splitAt _ hw

/-- No segment of the name ends with the marker. -/
def Bare (name : String) : Prop := ∀ w ∈ segments name, w.getLast? ≠ some p.marker

/-- A given name is the one that is meant, with the marker behind some of its segments. -/
def Marks (meant given : String) : Prop :=
  ∃ ws, given = ofSegments ws ∧
    List.Forall₂ (fun w v => v = w ∨ v = w ++ [p.marker]) (segments meant) ws

/-- **No stripped name ends a segment with the marker.** -/
lemma bare_strip (name : String) : p.Bare (p.strip name) := by
  intro w hw hlast
  rw [segments_strip] at hw
  obtain ⟨v, -, rfl⟩ := List.mem_map.mp hw
  obtain ⟨front, hfront⟩ := List.getLast?_eq_some_iff.mp hlast
  have hne : p.trimmed v ≠ [] := by simp [hfront]
  refine List.rdropWhile_last_not (· == p.marker) v hne (beq_iff_eq.mpr ?_)
  exact Option.some.inj ((List.getLast?_eq_getLast_of_ne_nil hne).symm.trans hlast)

/-- Marked segments without their markers are the segments that are meant, without theirs. -/
lemma map_trimmed_of_marks {ws vs : List (List Char)}
    (h : List.Forall₂ (fun w v => v = w ∨ v = w ++ [p.marker]) ws vs) :
    vs.map p.trimmed = ws.map p.trimmed := by
  induction h with
  | nil => rfl
  | @cons w v ws vs hmark _ ih =>
      have hv : p.trimmed v = p.trimmed w := by
        rcases hmark with rfl | rfl
        · rfl
        · have hlast : (p.marker == p.marker) = true := beq_self_eq_true _
          exact List.rdropWhile_concat_pos (· == p.marker) w p.marker hlast
      rw [List.map_cons, List.map_cons, hv, ih]

/-- A marker that is no dot cuts no segment in two. -/
lemma segments_of_marks (hdot : p.marker ≠ '.') {ws vs : List (List Char)}
    (hws : ∀ w ∈ ws, '.' ∉ w)
    (h : List.Forall₂ (fun w v => v = w ∨ v = w ++ [p.marker]) ws vs) : ∀ v ∈ vs, '.' ∉ v := by
  induction h with
  | nil => exact List.forall_mem_nil _
  | @cons w v ws vs hmark _ ih =>
      have hw : '.' ∉ w := hws w List.mem_cons_self
      refine List.forall_mem_cons.mpr ⟨?_, ih fun u hu => hws u (List.mem_cons_of_mem _ hu)⟩
      rcases hmark with rfl | rfl
      · exact hw
      · simpa [hw] using hdot.symm

/-- Marking a name, which may have markers already, does not change what stripping makes of it. -/
lemma strip_eq_of_marks (hdot : p.marker ≠ '.') (hmarks : p.Marks meant given) :
    p.strip given = p.strip meant := by
  obtain ⟨vs, rfl, hvs⟩ := hmarks
  have hne : vs ≠ [] := by
    rintro rfl
    exact segments_ne_nil meant (List.forall₂_nil_right_iff.mp hvs)
  rw [strip_eq_ofSegments, segments_ofSegments hne
    (p.segments_of_marks hdot (fun _ => not_mem_of_mem_splitAt _) hvs),
    p.map_trimmed_of_marks hvs, ← strip_eq_ofSegments]

/-- **Stripping undoes marking**, unless the marker is a dot. -/
lemma strip_of_marks (hdot : p.marker ≠ '.') (hunmarked : p.Unmarked meant)
    (hmarks : p.Marks meant given) : p.strip given = meant :=
  (p.strip_eq_of_marks hdot hmarks).trans (p.strip_of_unmarked hunmarked)

/-- What stripping makes of a marked name. -/
lemma strip_eq_iff_of_marks (hunmarked : p.Unmarked meant) (hmarks : p.Marks meant given) :
    p.strip given = meant ↔ (p.marker = '.' → given = meant) := by
  by_cases hdot : p.marker = '.'
  · rw [p.strip_of_dot hdot]
    exact ⟨fun h _ => h, fun h => h hdot⟩
  · exact iff_of_true (p.strip_of_marks hdot hunmarked hmarks) fun h => absurd h hdot

/-! ## What is sent in place of what was given -/

/-- The name that is sent ends no segment with the marker; and if what was given is a marked name,
it is the name that was meant. -/
def Cleans (given sent : String) : Prop :=
  p.Bare sent ∧ ∀ meant, p.Unmarked meant → p.Marks meant given → sent = meant

/-- The fields that are sent are those that were given, under cleaned names. -/
structure CleansFields (given sent : Record) : Prop where
  of_sent : ∀ name value, sent.find? name = some value →
    ∃ name', p.Cleans name' name ∧ given.find? name' = some value
  of_given : ∀ name value, given.find? name = some value →
    ∃ name' value', p.Cleans name name' ∧ sent.find? name' = some value'

lemma cleans_strip (hdot : p.marker ≠ '.') (name : String) : p.Cleans name (p.strip name) :=
  ⟨p.bare_strip name, fun _ => p.strip_of_marks hdot⟩

lemma cleansFields_stripFields (hdot : p.marker ≠ '.') (record : Record) :
    p.CleansFields record (p.stripFields record) where
  of_sent name value h := by
    obtain ⟨⟨name', value'⟩, hmem, hentry⟩ := List.mem_map.mp (Dict.mem_of_find?_ofList h)
    cases hentry
    exact ⟨name', p.cleans_strip hdot name', Dict.mem_entries.mp hmem⟩
  of_given name value h := by
    refine ⟨p.strip name, ?_⟩
    cases hsent : (p.stripFields record).find? (p.strip name) with
    | some value' => exact ⟨value', p.cleans_strip hdot name, rfl⟩
    | none =>
        rw [stripFields, Dict.find?_ofList, Dict.lastValue?_eq_none_iff] at hsent
        refine absurd (List.mem_map.mpr ⟨(p.strip name, value), ?_, rfl⟩) hsent
        exact List.mem_map.mpr ⟨(name, value), Dict.mem_entries.mpr h, rfl⟩

end Projection

end Dialogue
