import Mathlib
import ReleasePage.Proofs.Json.Members
import ReleasePage.Release.Record

/-!
# The schema of release records

A release record is read from exactly the objects that describe one: every field
once, with a value of its kind, texts that may be missing or `null` where the
record allows it, and sizes as integer literals of 64 bits without sign. White
space, the order of the members and members under other keys make no difference,
in the record as in its files. What is written of a record describes it.

The literal `-0` denotes an integer in range, too, but it is read as a double, so
a size that is written like this is refused.
-/

namespace ReleasePage

open ReleasePage.Json (Value Decimal Meanings Blank Spells Gives MayGive)
open ReleasePage.Text (Bytes)

namespace AssetRecord

/-- The members of an object describe a file. -/
structure DescribedBy (asset : AssetRecord) (members : List (String × Value)) : Prop where
  /-- No key of a file is given twice. -/
  once : ∀ key ∈ ["name", "browser_download_url", "size", "state"],
    (members.map Prod.fst).count key ≤ 1
  /-- The name is a text. -/
  name : ("name", .text asset.name) ∈ members
  /-- The address is a text. -/
  downloadUrl : ("browser_download_url", .text asset.downloadUrl) ∈ members
  /-- The size is an integer literal. -/
  size : ∃ n : Decimal, ("size", .number n) ∈ members ∧ n.integer? = some (asset.size : Int)
  /-- The size fits in 64 bits. -/
  size_lt : asset.size < Number.words64
  /-- The state is a text. -/
  state : ("state", .text asset.state) ∈ members

/-- The document is an object that describes a file. -/
def IsDescribedBy (value : Value) (asset : AssetRecord) : Prop :=
  ∃ members, value = .object members ∧ asset.DescribedBy members

end AssetRecord

namespace ReleaseRecord

/-- The members of an object describe a release. -/
structure DescribedBy (record : ReleaseRecord) (members : List (String × Value)) : Prop where
  /-- No key of a release is given twice. -/
  once : ∀ key ∈ ["name", "html_url", "body", "published_at", "created_at", "tarball_url",
    "zipball_url", "draft", "prerelease", "assets"], (members.map Prod.fst).count key ≤ 1
  /-- The name is a text. -/
  name : ("name", .text record.name) ∈ members
  /-- The address is a text. -/
  htmlUrl : ("html_url", .text record.htmlUrl) ∈ members
  /-- The notes may be missing. -/
  body : MayGive members "body" record.body
  /-- The time of publication may be missing. -/
  publishedAt : MayGive members "published_at" record.publishedAt
  /-- The time of creation may be missing. -/
  createdAt : MayGive members "created_at" record.createdAt
  /-- The address of the tarball is a text. -/
  tarballUrl : ("tarball_url", .text record.tarballUrl) ∈ members
  /-- The address of the zip archive is a text. -/
  zipballUrl : ("zipball_url", .text record.zipballUrl) ∈ members
  /-- Whether the release is a draft. -/
  draft : ("draft", .boolean record.draft) ∈ members
  /-- Whether the release is a preview. -/
  prerelease : ("prerelease", .boolean record.prerelease) ∈ members
  /-- The files are an array of objects, each of which describes a file. -/
  assets : ∃ items, ("assets", .list items) ∈ members ∧
    List.Forall₂ AssetRecord.IsDescribedBy items record.assets

/-- No file of a release is given as an array. -/
def NoArrays (members : List (String × Value)) : Prop :=
  ∀ items, ("assets", Value.list items) ∈ members → ∀ inner, Value.list inner ∉ items

/-- No size of a file is written with a minus sign. -/
def SizesUnsigned (members : List (String × Value)) : Prop :=
  ∀ items, ("assets", Value.list items) ∈ members → ∀ entries, Value.object entries ∈ items →
    ∀ n : Decimal, ("size", .number n) ∈ entries → n.negative = false

end ReleaseRecord

section Reading

namespace AssetRecord

/-- What the decoders of a file make of documents. -/
def meanings : Meanings AssetRecord.record.types :=
  .cons Value.text? <| .cons Value.text? <|
    .cons (Value.natural? (Number.words64 - 1)) <| .cons Value.text? .nil

/-- The file a document gives. -/
def value? : Value → Option AssetRecord := AssetRecord.record.value? meanings

/-- A file is read from the document that gives it, unless that is an array. -/
theorem gives {value : Value} (hl : ∀ items, value ≠ .list items) :
    Gives AssetRecord.record.decoder value (value? value) :=
  Json.gives_record (by decide) hl fun _ _ =>
    ⟨fun value _ => Json.gives_text value, fun value _ => Json.gives_text value,
      fun value _ => Json.gives_natural (by decide) "u64" value,
      fun value _ => Json.gives_text value, trivial⟩

/-- The values of the four fields of a file. -/
theorem row?_eq_some {members : List (String × Value)} {name url state : String} {size : Nat} :
    AssetRecord.record.fields.row? meanings members = some (name, url, size, state, ()) ↔
      (Json.Field.required "name" Json.text).value? Value.text? members = some name ∧
      (Json.Field.required "browser_download_url" Json.text).value? Value.text? members =
        some url ∧
      (Json.Field.required "size" Json.word64).value? (Value.natural? (Number.words64 - 1))
        members = some size ∧
      (Json.Field.required "state" Json.text).value? Value.text? members = some state :=
  Json.Fields.row?_cons_eq_some.trans <| and_congr_right fun _ =>
    Json.Fields.row?_cons_eq_some.trans <| and_congr_right fun _ =>
      Json.Fields.row?_cons_eq_some.trans <| and_congr_right fun _ =>
        Json.Fields.row?_cons_eq_some.trans (and_iff_left rfl)

/-- The size of a file is an integer literal of 64 bits without sign. -/
theorem size?_eq_some {members : List (String × Value)} {size : Nat} :
    (Json.Field.required "size" Json.word64).value? (Value.natural? (Number.words64 - 1))
        members = some size ↔
      (∃ n : Decimal, ("size", .number n) ∈ members ∧ n.integer? = some (size : Int)) ∧
      size < Number.words64 ∧ (members.map Prod.fst).count "size" ≤ 1 ∧
      ∀ n : Decimal, ("size", .number n) ∈ members → n.negative = false := by
  have hmax : Number.words64 - 1 + 1 = Number.words64 := by decide
  rw [Json.Field.value?_required]
  constructor
  · rintro ⟨value, hm, hc, hv⟩
    obtain ⟨rfl, hle⟩ := Json.Value.natural?_eq_some.mp hv
    refine ⟨⟨.ofNat size, hm, (Decimal.eq_ofNat_iff.mp rfl).1⟩, by omega, hc, fun n hn => ?_⟩
    have he := Value.number.inj (Json.eq_of_once hn hm hc)
    exact (Decimal.eq_ofNat_iff.mp he).2
  · rintro ⟨⟨n, hm, hn⟩, hlt, hc, hu⟩
    refine ⟨_, hm, hc, Json.Value.natural?_eq_some.mpr ⟨?_, by omega⟩⟩
    rw [Decimal.eq_ofNat_iff.mpr ⟨hn, hu n hm⟩]

/-- The documents that give a file are those that describe it, with a size without
sign. -/
theorem value?_eq_some {value : Value} {asset : AssetRecord} :
    value? value = some asset ↔ ∃ members, value = .object members ∧ asset.DescribedBy members ∧
      ∀ n : Decimal, ("size", .number n) ∈ members → n.negative = false := by
  have htext : ∀ s value, Value.text? value = some s ↔ value = .text s := fun s value =>
    Value.text?_eq_some
  cases value with
  | object members =>
    constructor
    · intro h
      obtain ⟨⟨name, url, size, state, ⟨⟩⟩, hrow, rfl⟩ := Option.map_eq_some_iff.mp h
      obtain ⟨hname, hurl, hsize, hstate⟩ := row?_eq_some.mp hrow
      rw [Json.Field.value?_given (htext _)] at hname hurl hstate
      obtain ⟨hsize, hlt, hc, hu⟩ := size?_eq_some.mp hsize
      refine ⟨members, rfl, ⟨?_, hname.1, hurl.1, hsize, hlt, hstate.1⟩, hu⟩
      simp only [List.forall_mem_cons]
      exact ⟨hname.2, hurl.2, hc, hstate.2, fun key hk => absurd hk List.not_mem_nil⟩
    · rintro ⟨_, ⟨⟩, h, hu⟩
      have hc := h.once
      simp only [List.forall_mem_cons] at hc
      have hrow : AssetRecord.record.fields.row? meanings members =
          some (asset.name, asset.downloadUrl, asset.size, asset.state, ()) :=
        row?_eq_some.mpr ⟨(Json.Field.value?_given (htext _)).mpr ⟨h.name, hc.1⟩,
          (Json.Field.value?_given (htext _)).mpr ⟨h.downloadUrl, hc.2.1⟩,
          size?_eq_some.mpr ⟨h.size, h.size_lt, hc.2.2.1, hu⟩,
          (Json.Field.value?_given (htext _)).mpr ⟨h.state, hc.2.2.2.1⟩⟩
      exact Option.map_eq_some_iff.mpr ⟨_, hrow, rfl⟩
  | _ =>
    constructor
    · intro h
      cases h
    · rintro ⟨members, h, -⟩
      cases h

end AssetRecord

namespace ReleaseRecord

/-- What the decoders of a release make of documents. -/
def meanings : Meanings ReleaseRecord.record.types :=
  .cons Value.text? <| .cons Value.text? <| .cons (Value.optional? Value.text?) <|
    .cons (Value.optional? Value.text?) <| .cons (Value.optional? Value.text?) <|
    .cons Value.text? <| .cons Value.text? <| .cons Value.boolean? <| .cons Value.boolean? <|
    .cons (Value.list? AssetRecord.value?) .nil

/-- The release a document gives. -/
def value? : Value → Option ReleaseRecord := ReleaseRecord.record.value? meanings

/-- A release is read from the members that give it, unless one of its files is an
array. -/
theorem gives {members : List (String × Value)} (hl : NoArrays members) :
    Gives ReleaseRecord.record.decoder (.object members) (value? (.object members)) := by
  have hassets : ∀ value, ("assets", value) ∈ members →
      Gives (Json.list AssetRecord.record.decoder) value (value.list? AssetRecord.value?) := by
    intro value hv
    refine Json.gives_list fun items hi item hitem => AssetRecord.gives fun inner he => ?_
    exact hl items (hi ▸ hv) inner (he ▸ hitem)
  refine Json.gives_record (by decide) (fun items h => by cases h) fun entries he => ?_
  cases he
  exact ⟨fun value _ => Json.gives_text value, fun value _ => Json.gives_text value,
    fun value _ => Json.gives_optional (Json.gives_text value),
    fun value _ => Json.gives_optional (Json.gives_text value),
    fun value _ => Json.gives_optional (Json.gives_text value),
    fun value _ => Json.gives_text value, fun value _ => Json.gives_text value,
    fun value _ => Json.gives_boolean value, fun value _ => Json.gives_boolean value,
    hassets, trivial⟩

/-- The elements give files exactly if they describe them, with sizes without
sign. -/
theorem forall₂_value? {items : List Value} {assets : List AssetRecord} :
    List.Forall₂ (fun item asset => AssetRecord.value? item = some asset) items assets ↔
      List.Forall₂ AssetRecord.IsDescribedBy items assets ∧
        ∀ entries, Value.object entries ∈ items → ∀ n : Decimal, ("size", .number n) ∈ entries →
          n.negative = false := by
  constructor
  · intro h
    induction h with
    | nil => exact ⟨.nil, fun entries he => absurd he List.not_mem_nil⟩
    | cons hi h ih =>
      obtain ⟨members, rfl, hd, hu⟩ := AssetRecord.value?_eq_some.mp hi
      refine ⟨.cons ⟨members, rfl, hd⟩ ih.1, fun entries he => ?_⟩
      rcases List.mem_cons.mp he with he | he
      · cases he
        exact hu
      · exact ih.2 entries he
  · rintro ⟨h, hu⟩
    induction h with
    | nil => exact .nil
    | cons hi h ih =>
      obtain ⟨members, rfl, hd⟩ := hi
      refine .cons (AssetRecord.value?_eq_some.mpr ⟨members, rfl, hd, ?_⟩) (ih ?_)
      · exact hu members List.mem_cons_self
      · exact fun entries he => hu entries (List.mem_cons_of_mem _ he)

/-- The files of a release are an array of objects that describe them. -/
theorem assets?_eq_some {members : List (String × Value)} {assets : List AssetRecord} :
    (Json.Field.required "assets" (Json.list AssetRecord.record.decoder)).value?
        (Value.list? AssetRecord.value?) members = some assets ↔
      (∃ items, ("assets", .list items) ∈ members ∧
        List.Forall₂ AssetRecord.IsDescribedBy items assets) ∧
      (members.map Prod.fst).count "assets" ≤ 1 ∧ SizesUnsigned members := by
  rw [Json.Field.value?_required]
  constructor
  · rintro ⟨value, hm, hc, hv⟩
    cases value with
    | list items =>
      obtain ⟨hd, hu⟩ := forall₂_value?.mp (Value.list?_eq_some.mp hv)
      refine ⟨⟨items, hm, hd⟩, hc, fun others ho => ?_⟩
      rwa [Value.list.inj (Json.eq_of_once ho hm hc)]
    | _ => cases hv
  · rintro ⟨⟨items, hm, hd⟩, hc, hu⟩
    exact ⟨.list items, hm, hc,
      Value.list?_eq_some.mpr (forall₂_value?.mpr ⟨hd, hu items hm⟩)⟩

/-- The values of the ten fields of a release. -/
theorem row?_eq_some {members : List (String × Value)}
    {name htmlUrl tarballUrl zipballUrl : String} {body publishedAt createdAt : Option String}
    {draft prerelease : Bool} {assets : List AssetRecord} :
    ReleaseRecord.record.fields.row? meanings members =
        some (name, htmlUrl, body, publishedAt, createdAt, tarballUrl, zipballUrl, draft,
          prerelease, assets, ()) ↔
      (Json.Field.required "name" Json.text).value? Value.text? members = some name ∧
      (Json.Field.required "html_url" Json.text).value? Value.text? members = some htmlUrl ∧
      (Json.Field.optional "body" Json.text).value? (Value.optional? Value.text?) members =
        some body ∧
      (Json.Field.optional "published_at" Json.text).value? (Value.optional? Value.text?) members =
        some publishedAt ∧
      (Json.Field.optional "created_at" Json.text).value? (Value.optional? Value.text?) members =
        some createdAt ∧
      (Json.Field.required "tarball_url" Json.text).value? Value.text? members =
        some tarballUrl ∧
      (Json.Field.required "zipball_url" Json.text).value? Value.text? members =
        some zipballUrl ∧
      (Json.Field.required "draft" Json.boolean).value? Value.boolean? members = some draft ∧
      (Json.Field.required "prerelease" Json.boolean).value? Value.boolean? members =
        some prerelease ∧
      (Json.Field.required "assets" (Json.list AssetRecord.record.decoder)).value?
        (Value.list? AssetRecord.value?) members = some assets :=
  Json.Fields.row?_cons_eq_some.trans <| and_congr_right fun _ =>
    Json.Fields.row?_cons_eq_some.trans <| and_congr_right fun _ =>
    Json.Fields.row?_cons_eq_some.trans <| and_congr_right fun _ =>
    Json.Fields.row?_cons_eq_some.trans <| and_congr_right fun _ =>
    Json.Fields.row?_cons_eq_some.trans <| and_congr_right fun _ =>
    Json.Fields.row?_cons_eq_some.trans <| and_congr_right fun _ =>
    Json.Fields.row?_cons_eq_some.trans <| and_congr_right fun _ =>
    Json.Fields.row?_cons_eq_some.trans <| and_congr_right fun _ =>
    Json.Fields.row?_cons_eq_some.trans <| and_congr_right fun _ =>
    Json.Fields.row?_cons_eq_some.trans (and_iff_left rfl)

/-- The members that give a release are those that describe it, with sizes without
sign. -/
theorem value?_eq_some {members : List (String × Value)} {record : ReleaseRecord} :
    value? (.object members) = some record ↔
      record.DescribedBy members ∧ SizesUnsigned members := by
  have htext : ∀ s value, Value.text? value = some s ↔ value = .text s := fun s value =>
    Value.text?_eq_some
  have hbool : ∀ b value, Value.boolean? value = some b ↔ value = .boolean b := fun b value =>
    Value.boolean?_eq_some
  constructor
  · intro h
    obtain ⟨⟨name, htmlUrl, body, publishedAt, createdAt, tarballUrl, zipballUrl, draft,
      prerelease, assets, ⟨⟩⟩, hrow, rfl⟩ := Option.map_eq_some_iff.mp h
    obtain ⟨hname, hhtml, hbody, hpublished, hcreated, htarball, hzipball, hdraft, hpre,
      hassets⟩ := row?_eq_some.mp hrow
    rw [Json.Field.value?_given (htext _)] at hname hhtml htarball hzipball
    rw [Json.Field.value?_given (hbool _)] at hdraft hpre
    rw [Json.Field.value?_optional] at hbody hpublished hcreated
    obtain ⟨hassets, hc, hu⟩ := assets?_eq_some.mp hassets
    refine ⟨⟨?_, hname.1, hhtml.1, hbody.1, hpublished.1, hcreated.1, htarball.1, hzipball.1,
      hdraft.1, hpre.1, hassets⟩, hu⟩
    simp only [List.forall_mem_cons]
    exact ⟨hname.2, hhtml.2, hbody.2, hpublished.2, hcreated.2, htarball.2, hzipball.2, hdraft.2,
      hpre.2, hc, fun key hk => absurd hk List.not_mem_nil⟩
  · rintro ⟨h, hu⟩
    obtain ⟨hname, hhtml, hbody, hpublished, hcreated, htarball, hzipball, hdraft, hpre, hassets,
      -⟩ := (by simpa only [List.forall_mem_cons] using h.once)
    have hrow : ReleaseRecord.record.fields.row? meanings members =
        some (record.name, record.htmlUrl, record.body, record.publishedAt, record.createdAt,
          record.tarballUrl, record.zipballUrl, record.draft, record.prerelease, record.assets,
          ()) :=
      row?_eq_some.mpr ⟨(Json.Field.value?_given (htext _)).mpr ⟨h.name, hname⟩,
        (Json.Field.value?_given (htext _)).mpr ⟨h.htmlUrl, hhtml⟩,
        Json.Field.value?_optional.mpr ⟨h.body, hbody⟩,
        Json.Field.value?_optional.mpr ⟨h.publishedAt, hpublished⟩,
        Json.Field.value?_optional.mpr ⟨h.createdAt, hcreated⟩,
        (Json.Field.value?_given (htext _)).mpr ⟨h.tarballUrl, htarball⟩,
        (Json.Field.value?_given (htext _)).mpr ⟨h.zipballUrl, hzipball⟩,
        (Json.Field.value?_given (hbool _)).mpr ⟨h.draft, hdraft⟩,
        (Json.Field.value?_given (hbool _)).mpr ⟨h.prerelease, hpre⟩,
        assets?_eq_some.mpr ⟨h.assets, hassets, hu⟩⟩
    exact Option.map_eq_some_iff.mpr ⟨_, hrow, rfl⟩

/-- A text is read as the release that its members describe, with sizes without sign,
and as nothing else. -/
theorem parse_eq_ok_iff {members : List (String × Value)} {before text after : Bytes}
    (hb : Blank before) (ht : Spells (.object members) text) (ha : Blank after)
    (hl : NoArrays members) (record : ReleaseRecord) :
    parse (before ++ (text ++ after)) = .ok record ↔
      record.DescribedBy members ∧ SizesUnsigned members := by
  have hd := Json.decode_gives (gives hl) hb ht ha
  rw [← value?_eq_some, ← hd, parse]
  cases Json.decode ReleaseRecord.record.decoder (before ++ (text ++ after)) with
  | error e => exact ⟨fun h => (by cases h), fun h => (by cases h)⟩
  | ok other => exact ⟨fun h => (by cases h; rfl), fun h => (by cases h; rfl)⟩

end ReleaseRecord

end Reading

section Writing

namespace AssetRecord

/-- The tree of a file is an object that describes it, and its size has no sign. -/
theorem describedBy_tree {asset : AssetRecord} (h : asset.size < Number.words64) :
    ∃ members, asset.tree.value = .object members ∧ asset.DescribedBy members ∧
      ∀ n : Decimal, ("size", .number n) ∈ members → n.negative = false := by
  refine ⟨_, rfl, ⟨Json.once_of_nodup rfl (by decide), ?_, ?_, ⟨.ofNat asset.size, ?_, rfl⟩, h, ?_⟩,
    fun n hn => ?_⟩
  · exact .head _
  · exact .tail _ (.head _)
  · exact .tail _ (.tail _ (.head _))
  · exact .tail _ (.tail _ (.tail _ (.head _)))
  · have he : n = .ofNat asset.size := by
      simpa [Json.Tree.entries, Json.Tree.value] using hn
    rw [he]
    rfl

end AssetRecord

namespace ReleaseRecord

/-- The tree of a release is an object that describes it, and the sizes of its files
have no sign. -/
theorem describedBy_tree {record : ReleaseRecord}
    (h : ∀ asset ∈ record.assets, asset.size < Number.words64) :
    ∃ members, record.tree.value = .object members ∧ record.DescribedBy members ∧
      NoArrays members ∧ SizesUnsigned members := by
  have hvalues : Json.Tree.values (record.assets.map AssetRecord.tree) =
      record.assets.map fun asset => asset.tree.value := by
    rw [Json.Tree.values_eq_map, List.map_map]
    rfl
  have hassets : List.Forall₂ AssetRecord.IsDescribedBy
      (Json.Tree.values (record.assets.map AssetRecord.tree)) record.assets := by
    rw [hvalues, List.forall₂_map_left_iff, List.forall₂_same]
    intro asset ha
    obtain ⟨members, he, hd, -⟩ := AssetRecord.describedBy_tree (h asset ha)
    exact ⟨members, he, hd⟩
  have hitem : ∀ item ∈ Json.Tree.values (record.assets.map AssetRecord.tree),
      ∃ (asset : AssetRecord) (members : _), item = .object members ∧ asset.DescribedBy members ∧
        ∀ n : Decimal, ("size", .number n) ∈ members → n.negative = false := by
    intro item hi
    rw [hvalues] at hi
    obtain ⟨asset, ha, rfl⟩ := List.mem_map.mp hi
    exact ⟨asset, AssetRecord.describedBy_tree (h asset ha)⟩
  -- The tree gives its files once, so this is the only array that has to be looked at.
  have hitems : ∀ members items, record.tree.value = .object members →
      ("assets", Value.list items) ∈ members →
      items = Json.Tree.values (record.assets.map AssetRecord.tree) := by
    intro members items he hm
    obtain rfl := Value.object.inj he
    simpa [Json.Tree.entries, Json.Tree.value] using hm
  refine ⟨_, rfl, ?described, ?noArrays, ?sizes⟩
  case described =>
    refine ⟨Json.once_of_nodup rfl (by decide), ?_, ?_, Json.mayGive_of_mem ?_,
      Json.mayGive_of_mem ?_, Json.mayGive_of_mem ?_, ?_, ?_, ?_, ?_, ⟨_, ?_, hassets⟩⟩
    all_goals simp [Json.Tree.entries, Json.Tree.value]
  case noArrays =>
    intro items hm inner hi
    obtain ⟨asset, members, hobject, -⟩ := hitem _ (hitems _ items rfl hm ▸ hi)
    cases hobject
  case sizes =>
    intro items hm entries he n hn
    obtain ⟨asset, members, hobject, -, hu⟩ := hitem _ (hitems _ items rfl hm ▸ he)
    cases hobject
    exact hu n hn

/-- A release is read back from every form in which its tree is written. -/
theorem parse_written {record : ReleaseRecord}
    (h : ∀ asset ∈ record.assets, asset.size < Number.words64) {text : Bytes}
    (ht : Json.Written record.tree text) : parse text = .ok record := by
  obtain ⟨members, he, hd, hl, hu⟩ := describedBy_tree h
  have hs := Json.spells_of_written record.tree ht
  rw [he] at hs
  have hp := (parse_eq_ok_iff Json.blank_nil hs Json.blank_nil hl record).mpr ⟨hd, hu⟩
  rwa [List.nil_append, List.append_nil] at hp

end ReleaseRecord

end Writing

/-- Release records are read from exactly the objects that describe them, with sizes
without sign. White space, escapes, the order of the members and members under other
keys make no difference. What is written of a record is read back. -/
theorem parse_accepts_record_schema :
    (∀ members before text after, Blank before → Spells (.object members) text → Blank after →
      ReleaseRecord.NoArrays members → ∀ record : ReleaseRecord,
        (ReleaseRecord.parse (before ++ (text ++ after)) = .ok record ↔
          record.DescribedBy members ∧ ReleaseRecord.SizesUnsigned members)) ∧
    ∀ record : ReleaseRecord, (∀ asset ∈ record.assets, asset.size < Number.words64) →
      ReleaseRecord.parse (Text.bytes record.tree.compactText) = .ok record ∧
      ReleaseRecord.parse (Text.bytes record.tree.prettyText) = .ok record := by
  refine ⟨fun members before text after hb ht ha hl record => ?_, fun record h => ⟨?_, ?_⟩⟩
  · exact ReleaseRecord.parse_eq_ok_iff hb ht ha hl record
  · rw [Json.Tree.compactText, Json.bytes_ofList]
    exact ReleaseRecord.parse_written h (Json.written_compact record.tree)
  · rw [Json.Tree.prettyText, Json.bytes_ofList]
    exact ReleaseRecord.parse_written h (Json.written_prettyAt 0 record.tree)

section Samples

/-- The members of a release with unknown members between the known ones and one file,
whose size is the given literal. -/
def sampleMembers (size : Decimal) : List (String × Value) :=
  [("assets", .list [.object [("size", .number size), ("state", .text "uploaded"),
      ("x", .list [.object [("name", .number (.ofNat 1)), ("name", .list [])],
        .number ⟨true, 0, [5], some ⟨true, some false, 3, []⟩⟩]),
      ("name", .text "f"), ("browser_download_url", .text "h/f")]]),
    ("id", .number (.ofNat 1)), ("id", .null), ("draft", .boolean false),
    ("prerelease", .boolean false), ("zipball_url", .text "z"), ("tarball_url", .text "t"),
    ("html_url", .text "h"), ("name", .text "v1"), ("created_at", .null), ("body", .text "b")]

/-- The release that the sample members describe. -/
def sampleRecord (size : Nat) : ReleaseRecord where
  name := "v1"
  htmlUrl := "h"
  body := some "b"
  publishedAt := none
  createdAt := none
  tarballUrl := "t"
  zipballUrl := "z"
  draft := false
  prerelease := false
  assets := [⟨"f", "h/f", size, "uploaded"⟩]

/-- A spelling of the sample members. -/
def sampleText (size : String) : Bytes :=
  Text.bytes ("\x7b\"assets\" : [ \x7b\"size\":" ++ size ++ ",\"state\":\"uploaded\"," ++
    "\"x\":[\x7b\"name\":1,\"name\":[]\x7d,-0.5E+3],\"name\":\"f\"," ++
    "\"browser_download_url\":\"\\u0068\\/f\"\x7d],\"id\":1,\"id\":null,\"draft\":false," ++
    "\"prerelease\":false,\"zipball_url\":\"z\",\"tarball_url\":\"t\",\"html_url\":\"h\"," ++
    "\"name\":\"v1\",\"created_at\":null,\"body\":\"b\"\x7d")

/-- The literal of the integer zero with a minus sign. -/
def negativeZero : Decimal := ⟨true, 0, [], none⟩

/-- The sample text spells the sample members. -/
theorem spells_sample {size : Decimal} {literal : String}
    (h : (size, literal) ∈ [(.ofNat 18446744073709551615, "18446744073709551615"),
      (negativeZero, "-0")]) :
    Spells (.object (sampleMembers size)) (sampleText literal) := by
  have key := fun s : String => Json.spellsText_quotedText s
  have text := fun s : String => Spells.text (key s)
  have none := Json.blank_nil
  have space := Json.blank_space
  have hescaped : Json.SpellsText "h/f" (Text.bytes "\"\\u0068\\/f\"") := by
    have hcode : Json.HexQuad [48, 48, 54, 56] 'h'.toNat :=
      .mk (i := 0) (j := 0) (k := 6) (l := 8) (.inl ⟨by decide, rfl⟩) (.inl ⟨by decide, rfl⟩)
        (.inl ⟨by decide, rfl⟩) (.inl ⟨by decide, rfl⟩)
    have hslash : Json.SpellsChar '/' ['\\'.toUInt8, '/'.toUInt8] := .short (by decide)
    have hchars : Json.SpellsChars "h/f".toList _ :=
      .cons (.numeric hcode) <| .cons hslash <|
        .cons (.plain (by decide) (by decide) (by decide)) .nil
    convert Json.SpellsText.quoted hchars using 1
    decide +kernel
  have hunknown : Spells (.list [.object [("name", .number (.ofNat 1)), ("name", .list [])],
      .number ⟨true, 0, [5], some ⟨true, some false, 3, []⟩⟩]) _ :=
    .list none (.object none (key "name") none none (.number (.ofNat 1)) <|
      .cons none none (key "name") none none (.emptyList none) (.nil none)) <|
      .cons none none (.number ⟨true, 0, [5], some ⟨true, some false, 3, []⟩⟩) (.nil none)
  have hfile := Spells.object none (key "size") none none (.number size) <|
    .cons none none (key "state") none none (text "uploaded") <|
    .cons none none (key "x") none none hunknown <|
    .cons none none (key "name") none none (text "f") <|
    .cons none none (key "browser_download_url") none none (.text hescaped) (.nil none)
  have hrecord : Spells (.object (sampleMembers size)) _ := .object none (key "assets") space space
    (.list space hfile (.nil none)) <|
    .cons none none (key "id") none none (.number (.ofNat 1)) <|
    .cons none none (key "id") none none .null <|
    .cons none none (key "draft") none none (.boolean false) <|
    .cons none none (key "prerelease") none none (.boolean false) <|
    .cons none none (key "zipball_url") none none (text "z") <|
    .cons none none (key "tarball_url") none none (text "t") <|
    .cons none none (key "html_url") none none (text "h") <|
    .cons none none (key "name") none none (text "v1") <|
    .cons none none (key "created_at") none none .null <|
    .cons none none (key "body") none none (text "b") (.nil none)
  convert hrecord using 1
  simp only [List.mem_cons, Prod.mk.injEq, List.not_mem_nil, or_false] at h
  rcases h with ⟨rfl, rfl⟩ | ⟨rfl, rfl⟩ <;> decide +kernel

/-- The sample members describe the sample record. -/
theorem describedBy_sample {size : Decimal} {k : Nat} (hs : size.integer? = some (k : Int))
    (hk : k < Number.words64) : (sampleRecord k).DescribedBy (sampleMembers size) := by
  have hkeys : (sampleMembers size).map Prod.fst = ["assets", "id", "id", "draft", "prerelease",
    "zipball_url", "tarball_url", "html_url", "name", "created_at", "body"] := rfl
  refine ⟨?once, ?_, ?_, ?_, .inl ?absent, .inr ?_, ?_, ?_, ?_, ?_,
    ⟨_, .head _, .cons ⟨_, rfl, ?file⟩ .nil⟩⟩
  case once =>
    rw [hkeys]
    decide
  case absent =>
    rw [hkeys]
    decide
  case file =>
    refine ⟨?onceFile, ?_, ?_, ⟨size, .head _, hs⟩, hk, ?_⟩
    case onceFile =>
      simp only [List.map_cons, List.map_nil]
      decide
    all_goals simp
  all_goals simp [sampleMembers, sampleRecord, MayGive]

/-- The sample has one array of files, and its file is an object. -/
theorem assets_sample {size : Decimal} {items : List Value}
    (h : ("assets", .list items) ∈ sampleMembers size) :
    ∃ file, items = [.object (("size", .number size) :: file)] ∧
      ∀ n : Decimal, ("size", .number n) ∉ file := by
  have hitems := by simpa [sampleMembers] using h
  exact ⟨_, hitems, fun n hn => by simp at hn⟩

/-- No file of the sample is an array. -/
theorem noArrays_sample (size : Decimal) : ReleaseRecord.NoArrays (sampleMembers size) := by
  intro items hm inner hi
  obtain ⟨file, rfl, -⟩ := assets_sample hm
  cases List.mem_singleton.mp hi

/-- A sample with the greatest size is read, and a written record is read back. -/
theorem parse_accepts_record_schema_sample :
    ReleaseRecord.parse (sampleText "18446744073709551615") =
      .ok (sampleRecord 18446744073709551615) ∧
    ReleaseRecord.parse (Text.bytes (sampleRecord 7).tree.compactText) = .ok (sampleRecord 7) := by
  have hunsigned : ReleaseRecord.SizesUnsigned
      (sampleMembers (.ofNat 18446744073709551615)) := by
    intro items hm entries he n hn
    obtain ⟨file, rfl, hfile⟩ := assets_sample hm
    cases List.mem_singleton.mp he
    rcases List.mem_cons.mp hn with hn | hn
    · cases hn
      rfl
    · exact absurd hn (hfile n)
  have hparse := (parse_accepts_record_schema.1 _ [] _ [] Json.blank_nil
    (spells_sample (.head _)) Json.blank_nil (noArrays_sample _) _).mpr
    ⟨describedBy_sample rfl (by decide), hunsigned⟩
  rw [List.nil_append, List.append_nil] at hparse
  exact ⟨hparse, (parse_accepts_record_schema.2 (sampleRecord 7) (by decide)).1⟩

/-- The sample with the size `-0` describes a record as well: the literal denotes the
integer zero. It is refused all the same. -/
theorem negative_zero_size_is_refused :
    Spells (.object (sampleMembers negativeZero)) (sampleText "-0") ∧
    ReleaseRecord.NoArrays (sampleMembers negativeZero) ∧
    (sampleRecord 0).DescribedBy (sampleMembers negativeZero) ∧
    ∀ record, ReleaseRecord.parse (sampleText "-0") ≠ .ok record := by
  have hs := spells_sample (.tail _ (.head _))
  have hl := noArrays_sample negativeZero
  refine ⟨hs, hl, describedBy_sample rfl (by decide), fun record h => ?_⟩
  rw [← List.nil_append (sampleText "-0"), ← List.append_nil (sampleText "-0")] at h
  have hu := ((ReleaseRecord.parse_eq_ok_iff Json.blank_nil hs Json.blank_nil hl record).mp h).2
  have hsign := hu _ (.head _) _ (.head _) negativeZero (.head _)
  cases hsign

end Samples

end ReleasePage
