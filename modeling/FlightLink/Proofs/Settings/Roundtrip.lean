import FlightLink.Proofs.Settings.Document
import Mathlib.Data.List.Nodup

/-!
# Settings are read as they were written

Settings can be written in many ways: as an object with their fields in any order, as an
array of their fields in order, with or without fields that have their defaults, and the
object with members of other names, whatever these say.  However they are written, they
are read as themselves.
-/

namespace FlightLink.Settings

open Json

/-! ## Documents -/

/-- The text with blanks around it. -/
def Pads (inner text : List Char) : Prop :=
  ∃ before after, Blanks before ∧ Blanks after ∧ text = before ++ (inner ++ after)

/-- The member gives the field its value. -/
def Gives (m : Member) (field : String × Json) : Prop :=
  Spells m.name field.1.toList ∧ Pads field.2.render m.value

/-- The member is no field.  Its value may be any JSON text. -/
def IsForeign (m : Member) : Prop :=
  ∃ name : String, Spells m.name name.toList ∧ name ∉ fieldNames ∧ IsValue m.value

/-- The members give these fields one after another, with foreign members among them. -/
inductive Lists : List Member → List (String × Json) → Prop where
  | nil : Lists [] []
  | field {m : Member} {field : String × Json} {members : List Member}
      {fields : List (String × Json)} (h : Gives m field) (hrest : Lists members fields) :
      Lists (m :: members) (field :: fields)
  | foreign {m : Member} {members : List Member} {fields : List (String × Json)}
      (h : IsForeign m) (hrest : Lists members fields) : Lists (m :: members) fields

/-- The settings are written as this text, as an object or as an array.  The fields of an object
come in any order, and those of an array in that of the settings.  An object may leave out any
fields that have their defaults, and an array the last ones. -/
inductive IsWritten (s : Settings) : List Char → Prop where
  | object {blanks : List Char} {ms : List Member} {fields : List (String × Json)}
      (hblanks : Blanks blanks) (h : Lists ms fields) (hfields : fields.Subperm s.members)
      (hdefaults : ∀ field ∈ s.members, field ∈ fields ∨ field ∈ ({} : Settings).members) :
      IsWritten s (bracketed '\x7b' '\x7d' blanks (ms.map Member.text))
  | array {blanks : List Char} {texts : List (List Char)} {n : Nat} (hblanks : Blanks blanks)
      (h : List.Forall₂ (fun field text => Pads field.2.render text) (s.members.take n) texts)
      (hdefaults : s.members.drop n = ({} : Settings).members.drop n) :
      IsWritten s (bracketed '[' ']' blanks texts)

/-- The text is a document of the settings. -/
def IsDocument (s : Settings) (text : String) : Prop :=
  ∃ inner, s.IsWritten inner ∧ Pads inner text.toList

/-! ## Reading them -/

variable {s : Settings} {size depth : Nat}

theorem reads_of_pads {v : Json} {text : List Char} (hv : IsScalar v) (h : Pads v.render text) :
    Reads (value? .strict size depth) text v := by
  obtain ⟨before, after, hbefore, hafter, rfl⟩ := h
  exact reads_value?_padded hbefore hafter hv.reads

/-- The members are read as the fields that they give, and as something for every other name. -/
theorem Lists.exists_reads {ms : List Member} {fields : List (String × Json)}
    (h : Lists ms fields) (hfields : ∀ field ∈ fields, field ∈ s.members)
    (hsize : ∀ m ∈ ms, m.value.length ≤ size) :
    ∃ values, List.Forall₂ (Reads (member? .strict (valueFor? fieldNames size)))
        (ms.map Member.text) values ∧
      (values.filter fun m => fieldNames.contains m.1) = fields := by
  induction h with
  | nil => exact ⟨[], .nil, rfl⟩
  | @field m field ms fields hgives _ ih =>
      rw [List.forall_mem_cons] at hfields hsize
      obtain ⟨values, hvalues, hknown⟩ := ih hfields.2 hsize.2
      have hname : fieldNames.contains field.1 = true := by
        rw [List.contains_iff_mem, ← map_fst_members s]
        exact List.mem_map_of_mem hfields.1
      have hread : Reads (valueFor? fieldNames size field.1) m.value field.2 := by
        rw [valueFor?, if_pos hname]
        exact reads_of_pads (isScalar_of_mem_members hfields.1) hgives.2
      refine ⟨field :: values, .cons (reads_member (fun rest => ?_) hread) hvalues, ?_⟩
      · rw [hgives.1.string?_eq, String.ofList_toList]
      · rw [List.filter_cons, if_pos hname, hknown]
  | @foreign m ms fields hforeign _ ih =>
      rw [List.forall_mem_cons] at hsize
      obtain ⟨values, hvalues, hknown⟩ := ih hfields hsize.2
      obtain ⟨name, hspells, hname, hvalue⟩ := hforeign
      have hname' : ¬ fieldNames.contains name = true := by
        rw [List.contains_iff_mem]
        exact hname
      obtain ⟨v, hv⟩ := hvalue.exists_reads hsize.1 hsize.1
      have hread : Reads (valueFor? fieldNames size name) m.value v := by
        rw [valueFor?, if_neg hname']
        exact hv
      refine ⟨(name, v) :: values, .cons (reads_member (fun rest => ?_) hread) hvalues, ?_⟩
      · rw [hspells.string?_eq, String.ofList_toList]
      · rw [List.filter_cons, if_neg hname', hknown]

/-- Settings written as an object are read from it. -/
theorem parse?_of_lists {text : String} {blanks after : List Char} {ms : List Member}
    {fields : List (String × Json)} (hblanks : Blanks blanks) (hafter : Blanks after)
    (htext : skip text.toList = bracketed '\x7b' '\x7d' blanks (ms.map Member.text) ++ after)
    (hsize : (bracketed '\x7b' '\x7d' blanks (ms.map Member.text)).length ≤ text.length)
    (hlists : Lists ms fields) (hfields : fields.Subperm s.members)
    (hdefaults : ∀ field ∈ s.members, field ∈ fields ∨ field ∈ ({} : Settings).members) :
    parse? text = some s := by
  have hlengths : ∀ m ∈ ms, m.value.length ≤ text.length := by
    intro m hm
    have := m.length_value_lt
    have := length_le_length_bracketed '\x7b' '\x7d' blanks
      (List.mem_map_of_mem (f := Member.text) hm)
    omega
  have hcount := length_texts_lt_length_bracketed '\x7b' '\x7d' blanks (ms.map Member.text)
  obtain ⟨values, hvalues, hknown⟩ :=
    hlists.exists_reads (fun field hfield => hfields.subset hfield) hlengths
  have hopen : skip text.toList =
      '\x7b' :: (blanks ++ ([','].intercalate (ms.map Member.text) ++ '\x7d' :: after)) := by
    simp [htext, bracketed]
  rw [parse?, parseFor?_object hopen, object?_eq hblanks (by omega) hvalues,
    alone?_of_blanks hafter rfl]
  exact (supplies_findMember hknown hfields hdefaults).ofFields_eq

/-- Settings written as an array are read from it. -/
theorem parse?_of_forall₂_pads {text : String} {blanks after : List Char}
    {texts : List (List Char)} {n : Nat} (hblanks : Blanks blanks) (hafter : Blanks after)
    (htext : skip text.toList = bracketed '[' ']' blanks texts ++ after)
    (hsize : (bracketed '[' ']' blanks texts).length ≤ text.length)
    (hvalues : List.Forall₂ (fun field text => Pads field.2.render text) (s.members.take n) texts)
    (hdefaults : s.members.drop n = ({} : Settings).members.drop n) :
    parse? text = some s := by
  have hreads : List.Forall₂ (Reads (value? .strict text.length (depthLimit - 1))) texts
      ((s.members.take n).map Prod.snd) := by
    have hscalar : ∀ field ∈ s.members.take n, IsScalar field.2 :=
      fun field hfield => isScalar_of_mem_members (List.mem_of_mem_take hfield)
    rw [List.forall₂_map_right_iff]
    have hboth := (List.forall₂_and_left _ _).mpr ⟨hscalar, hvalues⟩
    exact (hboth.imp fun _ _ h => reads_of_pads h.1 h.2).flip
  have hcount := length_texts_lt_length_bracketed '[' ']' blanks texts
  obtain ⟨rest, hread, hskip⟩ :=
    reads_value?_array hblanks (by omega) hreads after (ends_of_blanks hafter)
  have hopen : skip text.toList =
      '[' :: (blanks ++ ([','].intercalate texts ++ [']']) ++ after) := htext
  have hlength : ((s.members.take n).map Prod.snd).length ≤ fieldNames.length := by
    rw [← map_fst_members s, List.length_map, List.length_map, List.length_take]
    omega
  have hdepth : depthLimit = depthLimit - 1 + 1 := rfl
  have hdocument : parseFor? fieldNames text = some (.array ((s.members.take n).map Prod.snd)) := by
    rw [parseFor?_of_ne hopen (by decide), ← List.cons_append, hdepth]
    exact (congrArg alone? hread).trans (alone?_of_blanks hafter hskip)
  rw [parse?, hdocument, Option.bind_some, ofJson?, if_pos hlength]
  exact (supplies_getElem? hdefaults).ofFields_eq

/-- Settings are read as they were written. -/
theorem parse?_of_isDocument {text : String} (h : s.IsDocument text) : parse? text = some s := by
  obtain ⟨inner, hinner, before, after, hbefore, hafter, htext⟩ := h
  have hsize : inner.length ≤ text.length := by
    rw [← String.length_toList, htext]
    simp only [List.length_append]
    omega
  have hskip : skip text.toList = skip (inner ++ after) := by
    rw [htext, skip_append hbefore]
  cases hinner with
  | object hblanks hlists hfields hdefaults =>
      exact parse?_of_lists hblanks hafter hskip hsize hlists hfields hdefaults
  | array hblanks hvalues hdefaults =>
      exact parse?_of_forall₂_pads hblanks hafter hskip hsize hvalues hdefaults

/-! ## The text of settings -/

/-- The member that a field is printed as. -/
def printed (field : String × Json) : Member where
  before := []
  name := field.1.toList.flatMap escape
  after := []
  value := field.2.render
  blanks_before := blanks_nil
  isStringBody_name := (spells_flatMap_escape _).isStringBody
  blanks_after := blanks_nil

theorem text_printed (field : String × Json) :
    (printed field).text = quoted field.1 ++ ':' :: field.2.render := by
  simp [printed, Member.text, quoted]

theorem gives_printed (field : String × Json) : Gives (printed field) field :=
  ⟨spells_flatMap_escape _, [], [], blanks_nil, blanks_nil, by simp [printed]⟩

theorem lists_printed (fields : List (String × Json)) : Lists (fields.map printed) fields := by
  induction fields with
  | nil => exact .nil
  | cons field fields ih => exact .field (gives_printed field) ih

/-- The text of settings is one of their documents. -/
theorem isDocument_text (s : Settings) : s.IsDocument s.text := by
  have htext : s.text.toList =
      bracketed '\x7b' '\x7d' [] ((s.members.map printed).map Member.text) := by
    rw [text, Json.text, String.toList_ofList, toJson_eq, render_object, List.map_map]
    congr 2
    funext field
    exact (text_printed field).symm
  refine ⟨_, .object blanks_nil (lists_printed s.members) (.refl _) fun field h => .inl h, [], [],
    blanks_nil, blanks_nil, ?_⟩
  rw [htext, List.append_nil, List.nil_append]

/-- The settings document round-trips: the text of settings is one of their documents, and all of
these are read as the settings. -/
theorem document_roundtrip (s : Settings) :
    s.IsDocument s.text ∧ parse? s.text = some s ∧
    ∀ text, s.IsDocument text → parse? text = some s :=
  ⟨s.isDocument_text, parse?_of_isDocument s.isDocument_text, fun _ => parse?_of_isDocument⟩

/-- A member of another name. -/
def note : Member where
  before := []
  name := ['n', 'o', 't', 'e']
  after := []
  value := bracketed '[' ']' [] [bracketed '[' ']' [] []]
  blanks_before := blanks_nil
  isStringBody_name := (spells_flatMap_escape ['n', 'o', 't', 'e']).isStringBody
  blanks_after := blanks_nil

theorem isForeign_note : IsForeign note :=
  ⟨"note", spells_flatMap_escape ['n', 'o', 't', 'e'], by decide,
    .array blanks_nil (List.forall_mem_singleton.mpr (.array blanks_nil nofun))⟩

/-- Fields in another order, most of them left out, and a member of another name among them. -/
theorem parse?_reordered :
    IsDocument { id := 7, debug := true }
      "\x7b\"debug\":true,\"note\":[[]],\"id\":7\x7d" ∧
    parse? "\x7b\"debug\":true,\"note\":[[]],\"id\":7\x7d" =
      some { id := 7, debug := true } := by
  have hlists : Lists [printed ("debug", .bool true), note, printed ("id", .nat 7)]
      [("debug", .bool true), ("id", .nat 7)] :=
    .field (gives_printed _) (.foreign isForeign_note (.field (gives_printed _) .nil))
  have hfields : List.Subperm [("debug", Json.bool true), ("id", Json.nat 7)]
      (members { id := 7, debug := true }) := by
    refine List.subperm_of_subset (List.Nodup.of_map Prod.fst (by decide)) fun field h => ?_
    simp only [List.mem_cons, List.not_mem_nil, or_false] at h
    rcases h with rfl | rfl
    · simp [members, toJson]
    · simp [members, toJson]
  have hdocument : IsDocument { id := 7, debug := true }
      "\x7b\"debug\":true,\"note\":[[]],\"id\":7\x7d" := by
    refine ⟨_, .object blanks_nil hlists hfields ?_, [], [], blanks_nil, blanks_nil, rfl⟩
    simp [members, toJson]
  exact ⟨hdocument, (document_roundtrip _).2.2 _ hdocument⟩

end FlightLink.Settings
