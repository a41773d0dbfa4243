import Mathlib.Data.Bool.AllAny
import Mathlib.Data.List.Perm.Basic
import ResponsiveImages.Proofs.Directive.Grammar
import ResponsiveImages.Proofs.Json.ReadBack
import ResponsiveImages.Proofs.Text.Lower

/-! The values of keys as data, and the compact text of this data as a payload. -/
namespace ResponsiveImages

open Json (Reader numberChars stringChars)
open Json.Reader

namespace Quality

theorem set_comm {first second : Format} (h : first ≠ second) (quality : Quality)
    (left right : Nat) :
    (quality.set first left).set second right = (quality.set second right).set first left := by
  cases first <;> cases second <;> first | exact absurd rfl h | rfl

theorem ofList_toList (quality : Quality) : ofList quality.toList = quality := by
  obtain ⟨jpeg, png, webp, avif⟩ := quality
  cases jpeg <;> cases png <;> cases webp <;> cases avif <;> rfl

/-- The order of the entries of a quality does not matter. -/
theorem ofList_eq_of_perm {entries : List (Format × Nat)} {quality : Quality}
    (h : entries.Perm quality.toList) : ofList entries = quality := by
  rw [← quality.ofList_toList]
  refine h.foldl_eq' (fun first hFirst second hSecond before => ?_) empty
  by_cases hFormat : first.1 = second.1
  · have hLeft := mem_toList_iff.mp (h.mem_iff.mp hFirst)
    have hRight := mem_toList_iff.mp (h.mem_iff.mp hSecond)
    rw [hFormat, hRight] at hLeft
    have hSame : first = second := Prod.ext hFormat (Option.some.inj hLeft).symm
    rw [hSame]
  · exact set_comm hFormat before first.2 second.2

end Quality

namespace Directive

open Text (isBlank)

theorem reads_byte {value : Nat} (h : value ≤ 255) :
    Reads byte (numberChars (.int value)) value := by
  obtain ⟨c, more, hText, hBegins⟩ := exists_beginsNumber value
  have hSpace := hBegins.isSpace_eq_false
  refine ⟨⟨c, more, hText, hSpace, hBegins.ne (by decide), hBegins.ne (by decide)⟩,
    fun rest hRest => ?_⟩
  have hWord : IsWord (value : Int) := ⟨by omega, Int.ofNat_lt.mpr (Nat.lt_of_le_of_lt h (by decide))⟩
  have hRead := number_numberChars hWord hRest
  rw [hText, List.cons_append] at hRead ⊢
  have hRange : (0 : Int) ≤ value ∧ (value : Int) ≤ 255 := by omega
  simp [byte, skipSpace_cons hSpace, hBegins.test, hRead, hRange, bind, Except.bind]

theorem qualityKey_flatMap (format : Format) (rest : List Char) :
    qualityKey (format.name.toList.flatMap Json.escapedChar ++ '"' :: rest) = .ok (format, rest) := by
  simp [qualityKey, stringRest_flatMap, Format.ofName?_name, bind, Except.bind]

theorem reads_string (text : String) : Reads string (stringChars text) text := by
  refine ⟨⟨'"', _, rfl, by decide, by decide, by decide⟩, fun rest _ => ?_⟩
  simp [string, stringChars, skipSpace_cons (show isSpace '"' = false by decide),
    stringRest_flatMap]

theorem reads_formatEntry (entry : SourceFormat) :
    Reads formatEntry (stringChars entry.name) entry := by
  refine ⟨(reads_string entry.name).begins, fun rest hRest => ?_⟩
  simp [formatEntry, (reads_string entry.name).read rest hRest, SourceFormat.ofName?_name, bind,
    Except.bind]

/-- A character that neither separates words nor stands between a key and its payload. -/
def IsUnbroken (c : Char) : Prop :=
  isBlank c = false ∧ c ≠ '='

instance (c : Char) : Decidable (IsUnbroken c) :=
  inferInstanceAs (Decidable (_ ∧ _))

def AreUnbroken (texts : List String) : Prop :=
  ∀ text ∈ texts, ∀ c ∈ text.toList, IsUnbroken c

instance (texts : List String) : Decidable (AreUnbroken texts) :=
  decidable_of_iff (texts.all fun text => text.toList.all (IsUnbroken ·)) (by simp [AreUnbroken])

/-- A payload in the brackets of its key, without blanks and equals signs, that reads as the value. -/
structure IsPayloadOf (key : Key) (value : key.Value) (payload : List Char) : Prop where
  bracketed : ∃ inside, payload = key.opening :: (inside ++ [key.closing])
  unbroken : ∀ c ∈ payload, IsUnbroken c
  read : readAll key.reader payload = .ok value

theorem isUnbroken_of_isVisible (c : Char) (h : Json.IsVisible c) : IsUnbroken c := by
  obtain ⟨hLow, hHigh, hOther⟩ := h
  refine ⟨Text.isBlank_eq_false_iff.mpr fun range hRange => ?_, hOther⟩
  have hAll : ∀ range ∈ Text.blankRanges, range.2 ≤ 32 ∨ 127 ≤ range.1 := by decide
  have hOutside := hAll range hRange
  omega

theorem exists_enclosed_eq (closing : Char) (texts : List (List Char)) :
    ∃ inside, enclosed closing texts = inside ++ [closing] := by
  cases texts with
  | nil => exact ⟨[], rfl⟩
  | cons text texts => exact ⟨_, rfl⟩

theorem readAll_of_read {α : Type} {reader : Reader α} {payload : List Char} {value : α}
    (h : reader payload = .ok (value, [])) : readAll reader payload = .ok value := by
  simp [readAll, h, skipSpace, bind, Except.bind]

theorem behindBracket_items {α : Type} {item : Reader α} {texts : List (List Char)}
    {values : List α} (h : List.Forall₂ (Reads item) texts values) :
    behindBracket (items item) ('[' :: enclosed ']' texts) = .ok (values, []) := by
  have hRead := items_enclosed h []
  rwa [List.append_nil] at hRead

theorem behindBracket_members {κ α : Type} {key : Reader κ} {value : Reader α}
    {texts : List (List Char)} {entries : List (κ × α)}
    (h : List.Forall₂ (Reads (member key value)) texts entries) :
    behindBracket (members key value) ('\x7b' :: enclosed '\x7d' texts) = .ok (entries, []) := by
  have hRead := members_enclosed h []
  rwa [List.append_nil] at hRead

/-- The data that stands for a value. The entries of a quality may come in any order. -/
def Key.Shows : (key : Key) → key.Value → Json → Prop
  | .quality, value, json => ∃ entries, List.Perm entries (Quality.toList value) ∧
    json = .object (entries.map fun entry => (entry.1.name, .number (.int entry.2)))
  | .imageFormats, value, json =>
    json = .array (List.map (fun entry : SourceFormat => .string entry.name) value)
  | .sizes, value, json => json = .array (List.map Json.string value)
  | .imageSrcsetLoaderOptions, value, json => json = .object value
  | .imageResizeLoaderOptions, value, json => json = .object value

/-- A value that a payload can give: a quality up to 100, texts without blanks and equals signs, or
members in which this holds for every text, all numbers are integers of 64 bits, and brackets are not
nested too deep. -/
def Key.Allows : (key : Key) → key.Value → Prop
  | .quality, value => Quality.InRange value
  | .imageFormats, _ => True
  | .sizes, value => AreUnbroken value
  | .imageSrcsetLoaderOptions, value => (Json.object value).IsPlain IsUnbroken maximalDepth
  | .imageResizeLoaderOptions, value => (Json.object value).IsPlain IsUnbroken maximalDepth

theorem exists_array_eq (items : List Json) :
    ∃ inside, (Json.array items).chars = '[' :: (inside ++ [']']) := by
  obtain ⟨inside, hInside⟩ := exists_enclosed_eq ']' (items.map Json.chars)
  exact ⟨inside, by rw [Json.chars, Json.itemChars_eq, hInside]⟩

theorem exists_object_eq (members : Members) :
    ∃ inside, (Json.object members).chars = '\x7b' :: (inside ++ ['\x7d']) := by
  obtain ⟨inside, hInside⟩ := exists_enclosed_eq '\x7d' (members.map Json.memberText)
  exact ⟨inside, by rw [Json.chars, Json.memberChars_eq, hInside]⟩

theorem isUnbroken_of_mem_name (format : Format) : ∀ c ∈ format.name.toList, IsUnbroken c := by
  have hVisible : format.name.toList.all (Json.IsVisible ·) = true := by cases format <;> decide
  exact fun c hc => isUnbroken_of_isVisible c (List.all_iff_forall_prop.mp hVisible c hc)

theorem isUnbroken_of_mem_sourceName (entry : SourceFormat) :
    ∀ c ∈ entry.name.toList, IsUnbroken c := by
  cases entry with
  | native => exact List.all_iff_forall_prop.mp (by decide)
  | named format => exact isUnbroken_of_mem_name format

theorem isPayloadOf_quality {quality : Quality} {entries : List (Format × Nat)}
    (hRange : quality.InRange) (hEntries : entries.Perm quality.toList) :
    IsPayloadOf .quality quality
      (Json.object (entries.map fun entry => (entry.1.name, .number (.int entry.2)))).chars := by
  refine ⟨exists_object_eq _, ?_, readAll_of_read ?_⟩
  · refine Json.forall_mem_object isUnbroken_of_isVisible ?_ ?_
    · exact List.forall_mem_map.mpr fun entry _ => isUnbroken_of_mem_name entry.1
    · exact List.forall_mem_map.mpr fun entry _ =>
        Json.forall_mem_numberChars isUnbroken_of_isVisible entry.2
  · have hReads : List.Forall₂ (Reads (member qualityKey byte))
        ((entries.map fun entry => (entry.1.name, Json.number (.int entry.2))).map Json.memberText)
        entries := by
      refine List.forall₂_map_left_iff.mpr (List.forall₂_map_left_iff.mpr ?_)
      refine List.forall₂_same.mpr fun entry hEntry => ?_
      have hGet := Quality.mem_toList_iff.mp (hEntries.mem_iff.mp hEntry)
      have hBound := hRange entry.1 entry.2 hGet
      have hMember := reads_member (qualityKey_flatMap entry.1)
        (reads_byte (show entry.2 ≤ 255 by omega))
      simpa [Json.memberText, stringChars, Json.chars] using hMember
    rw [Json.chars, Json.memberChars_eq, Key.reader, qualityTable, behindBracket_members hReads]
    exact congrArg (fun read => Except.ok (read, [])) (Quality.ofList_eq_of_perm hEntries)

theorem isPayloadOf_formats (formats : List SourceFormat) :
    IsPayloadOf .imageFormats formats
      (Json.array (formats.map fun entry => .string entry.name)).chars := by
  refine ⟨exists_array_eq _, ?_, readAll_of_read ?_⟩
  · refine Json.forall_mem_array isUnbroken_of_isVisible ?_
    exact List.forall_mem_map.mpr fun entry _ =>
      Json.forall_mem_stringChars isUnbroken_of_isVisible (isUnbroken_of_mem_sourceName entry)
  · rw [Json.chars, Json.itemChars_eq]
    refine behindBracket_items (List.forall₂_map_left_iff.mpr (List.forall₂_map_left_iff.mpr ?_))
    exact List.forall₂_same.mpr fun entry _ => reads_formatEntry entry

theorem isPayloadOf_sizes {sizes : List String} (h : AreUnbroken sizes) :
    IsPayloadOf .sizes sizes (Json.array (sizes.map .string)).chars := by
  refine ⟨exists_array_eq _, ?_, readAll_of_read ?_⟩
  · refine Json.forall_mem_array isUnbroken_of_isVisible ?_
    exact List.forall_mem_map.mpr fun size hSize =>
      Json.forall_mem_stringChars isUnbroken_of_isVisible (h size hSize)
  · rw [Json.chars, Json.itemChars_eq]
    refine behindBracket_items (List.forall₂_map_left_iff.mpr (List.forall₂_map_left_iff.mpr ?_))
    exact List.forall₂_same.mpr fun size _ => reads_string size

theorem readAll_memberTable {members : Members}
    (h : (Json.object members).IsPlain IsUnbroken maximalDepth) :
    readAll memberTable (Json.object members).chars = .ok members := by
  have hDepth : maximalDepth = maximalDepth - 1 + 1 := rfl
  rw [hDepth] at h
  cases h with
  | object hDistinct hNames hValues =>
      have hReads : List.Forall₂ (Reads (member stringRest (value (maximalDepth - 1))))
          (members.map Json.memberText) members :=
        List.forall₂_map_left_iff.mpr (List.forall₂_same.mpr fun member hMember =>
          Json.reads_memberText (Json.reads_value (hValues member hMember)))
      refine readAll_of_read ?_
      rw [Json.chars, Json.memberChars_eq, memberTable, behindBracket_members hReads]
      exact congrArg (fun read => Except.ok (read, [])) (Members.ofList_eq hDistinct)

/-- The compact text of the data for a value is a payload for it. -/
theorem Key.Shows.isPayloadOf {key : Key} {value : key.Value} {json : Json}
    (hShows : key.Shows value json) (hAllows : key.Allows value) :
    IsPayloadOf key value json.chars := by
  cases key with
  | quality =>
      obtain ⟨entries, hEntries, rfl⟩ := hShows
      exact isPayloadOf_quality hAllows hEntries
  | imageFormats =>
      cases hShows
      exact isPayloadOf_formats value
  | sizes =>
      cases hShows
      exact isPayloadOf_sizes hAllows
  | imageSrcsetLoaderOptions =>
      cases hShows
      exact ⟨exists_object_eq value, Json.forall_mem_chars isUnbroken_of_isVisible hAllows,
        readAll_memberTable hAllows⟩
  | imageResizeLoaderOptions =>
      cases hShows
      exact ⟨exists_object_eq value, Json.forall_mem_chars isUnbroken_of_isVisible hAllows,
        readAll_memberTable hAllows⟩

/-- No line feed separates the brackets of a payload. -/
theorem IsPayloadOf.exists_inside {key : Key} {value : key.Value} {payload : List Char}
    (h : IsPayloadOf key value payload) :
    ∃ inside, payload = key.opening :: (inside ++ [key.closing]) ∧ '\n' ∉ inside := by
  obtain ⟨inside, rfl⟩ := h.bracketed
  refine ⟨inside, rfl, fun hMem => ?_⟩
  have hFeed := (h.unbroken '\n' (by simp [hMem])).1
  cases hFeed

end Directive

/-- Options that a directive can give: no flag is taken back, and every key allows its value. -/
structure Options.IsExpressible (options : Options) : Prop where
  flags : ∀ flag, options.flag? flag ≠ some false
  values : ∀ key value, options.value? key = some value → key.Allows value

end ResponsiveImages
