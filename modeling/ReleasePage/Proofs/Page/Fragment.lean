import Mathlib
import ReleasePage.Proofs.Page.Escape

/-!
# The markup of the download page

The texts of a release have no influence on the markup of the page: which marks stand in
the fragment, and in which order, depends on the number of files only. And nothing that
is shown is lost. Every text ends at the next mark, so a fragment tells its texts apart;
only the name and the date of a release stand in one sentence without a mark between
them, which is why the date has to be known.
-/

namespace ReleasePage.Page

/-- The marks of texts that are joined. -/
theorem marks_join (texts : List String) : marks (String.join texts) = texts.flatMap marks := by
  induction texts with
  | nil => rfl
  | cons text texts ih => rw [String.join_cons, marks_append, ih, List.flatMap_cons]

/-- The marks of a link. -/
theorem marks_link (url name : String) :
    marks (link url name) = marks "<a href=\"" ++ marks "\">" ++ marks "</a>" := by
  simp only [link, marks_append, marks_escape, List.append_nil]

/-- The marks of a row do not depend on what the row shows. -/
theorem marks_assetRow (os os' : String) (asset asset' : Asset) :
    marks (assetRow os asset) = marks (assetRow os' asset') := by
  unfold assetRow
  simp only [marks_append, marks_escape, marks_link]

/-- The marks of a list item do not depend on what the item shows. -/
theorem marks_sourceItem (artifact artifact' : SourceArtifact) :
    marks (sourceItem artifact) = marks (sourceItem artifact') := by
  simp only [sourceItem, marks_append, marks_link]

/-- The marks of rows depend on the number of rows only. -/
theorem marks_rows {entries entries' : List (String × Asset)}
    (h : entries.length = entries'.length) :
    marks (String.join (entries.map fun (os, asset) => assetRow os asset)) =
      marks (String.join (entries'.map fun (os, asset) => assetRow os asset)) := by
  simp only [marks_join, List.flatMap_map]
  induction entries generalizing entries' with
  | nil =>
    rw [List.eq_nil_of_length_eq_zero h.symm]
  | cons entry entries ih =>
    cases entries' with
    | nil => cases h
    | cons entry' entries' =>
      simp only [List.flatMap_cons, marks_assetRow entry.1 entry'.1 entry.2 entry'.2]
      rw [ih (Nat.succ.inj h)]

/-- Two texts that end at the same mark are the same. -/
theorem eq_of_append_mark {mark : Char} {a b x y : List Char} (ha : mark ∉ a) (hb : mark ∉ b)
    (h : a ++ mark :: x = b ++ mark :: y) : a = b ∧ x = y := by
  induction a generalizing b with
  | nil =>
    cases b with
    | nil =>
      cases h
      exact ⟨rfl, rfl⟩
    | cons d b =>
      obtain ⟨rfl, -⟩ := List.cons.inj h
      exact absurd List.mem_cons_self hb
  | cons c a ih =>
    cases b with
    | nil =>
      obtain ⟨rfl, -⟩ := List.cons.inj h
      exact absurd List.mem_cons_self ha
    | cons d b =>
      obtain ⟨rfl, htail⟩ := List.cons.inj h
      obtain ⟨rfl, rfl⟩ := ih (fun hm => ha (List.mem_cons_of_mem _ hm))
        (fun hm => hb (List.mem_cons_of_mem _ hm)) htail
      exact ⟨rfl, rfl⟩

/-- A mark does not occur in a text without marks. -/
theorem not_mem_of_marks {text : String} (h : marks text = []) {mark : Char}
    (hm : isMark mark = true) : mark ∉ text.toList :=
  fun ht => List.filter_eq_nil_iff.mp h mark ht hm

/-- A piece of markup: a text that starts with a mark. -/
def IsMarkup (text : String) : Prop := ∃ mark rest, text.toList = mark :: rest ∧ isMark mark = true

/-- A text without marks ends where the next piece of markup starts. -/
theorem eq_of_append_markup {a b x y markup : String} (hm : IsMarkup markup)
    (ha : marks a = []) (hb : marks b = []) (h : a ++ (markup ++ x) = b ++ (markup ++ y)) :
    a = b ∧ x = y := by
  obtain ⟨mark, rest, hl, hmark⟩ := hm
  have hlist := congrArg String.toList h
  simp only [String.toList_append, hl, List.cons_append] at hlist
  obtain ⟨hab, hxy⟩ := eq_of_append_mark (not_mem_of_marks ha hmark)
    (not_mem_of_marks hb hmark) hlist
  exact ⟨String.toList_injective hab, String.toList_injective (List.append_cancel_left hxy)⟩

/-- An escaped text ends where the next piece of markup starts, and tells the text. -/
theorem eq_of_escape_markup {a b x y markup : String} (hm : IsMarkup markup)
    (h : escape a ++ (markup ++ x) = escape b ++ (markup ++ y)) : a = b ∧ x = y := by
  obtain ⟨hab, hxy⟩ := eq_of_append_markup hm (marks_escape a) (marks_escape b) h
  exact ⟨escape_injective hab, hxy⟩

/-- The border between two cells. -/
theorem isMarkup_cell : IsMarkup "</td><td>" := ⟨_, _, rfl, rfl⟩

/-- The end of a row. -/
theorem isMarkup_rowEnd : IsMarkup "</td></tr>\n" := ⟨_, _, rfl, rfl⟩

/-- The end of an address. -/
theorem isMarkup_urlEnd : IsMarkup "\">" := ⟨_, _, rfl, rfl⟩

/-- The end of a link. -/
theorem isMarkup_linkEnd : IsMarkup "</a>" := ⟨_, _, rfl, rfl⟩

/-- A link tells its address and its name, whatever follows. -/
theorem link_append_inj {url url' name name' x y : String}
    (h : link url name ++ x = link url' name' ++ y) : url = url' ∧ name = name' ∧ x = y := by
  simp only [link, String.append_assoc, String.append_right_inj] at h
  obtain ⟨hurl, h⟩ := eq_of_escape_markup isMarkup_urlEnd h
  obtain ⟨hname, h⟩ := eq_of_escape_markup isMarkup_linkEnd h
  exact ⟨hurl, hname, h⟩

/-- A list item tells the download, whatever follows. -/
theorem sourceItem_append_inj {artifact artifact' : SourceArtifact} {x y : String}
    (h : sourceItem artifact ++ x = sourceItem artifact' ++ y) : artifact = artifact' ∧ x = y := by
  simp only [sourceItem, String.append_assoc, String.append_right_inj] at h
  obtain ⟨hurl, hname, hrest⟩ := link_append_inj h
  rw [String.append_right_inj] at hrest
  cases artifact
  cases artifact'
  simp only at hurl hname
  exact ⟨by rw [hurl, hname], hrest⟩

/-- A row tells the label and the download, whatever follows. -/
theorem assetRow_append_inj {os os' : String} {asset asset' : Asset} {x y : String}
    (h : assetRow os asset ++ x = assetRow os' asset' ++ y) :
    os = os' ∧ asset = asset' ∧ x = y := by
  unfold assetRow at h
  simp only [String.append_assoc, String.append_right_inj] at h
  obtain ⟨hos, hcells⟩ := eq_of_escape_markup isMarkup_cell h
  obtain ⟨hcpu, hcells⟩ := eq_of_escape_markup isMarkup_cell hcells
  obtain ⟨hurl, hname, hcells⟩ := link_append_inj hcells
  rw [String.append_right_inj] at hcells
  obtain ⟨hsize, hrest⟩ := eq_of_escape_markup isMarkup_rowEnd hcells
  cases asset
  cases asset'
  simp only at hcpu hurl hname hsize
  exact ⟨hos, by rw [hcpu, hurl, hname, hsize], hrest⟩

/-- The end of the table is no row: its third character is a mark. -/
theorem assetRow_ne_end (os : String) (asset : Asset) (x y : String) :
    assetRow os asset ++ x ≠ "  </tbody>\n</table>\n" ++ y := by
  intro h
  have hthird := congrArg (fun text : String => text.toList[2]?) h
  unfold assetRow at hthird
  simp only [String.append_assoc, String.toList_append] at hthird
  rw [List.getElem?_append_left (by decide), List.getElem?_append_left (by decide)] at hthird
  exact absurd hthird (by decide)

/-- The rows of a table tell its entries, since they end where the table ends. -/
theorem rows_append_inj {entries entries' : List (String × Asset)}
    (h : String.join (entries.map fun (os, asset) => assetRow os asset) ++
        "  </tbody>\n</table>\n" =
      String.join (entries'.map fun (os, asset) => assetRow os asset) ++
        "  </tbody>\n</table>\n") :
    entries = entries' := by
  induction entries generalizing entries' with
  | nil =>
    cases entries' with
    | nil => rfl
    | cons entry' entries' =>
      simp only [List.map_nil, String.join_nil, String.empty_append, List.map_cons,
        String.join_cons, String.append_assoc] at h
      exact absurd (h.symm.trans (String.append_empty).symm) (assetRow_ne_end _ _ _ _)
  | cons entry entries ih =>
    cases entries' with
    | nil =>
      simp only [List.map_nil, String.join_nil, String.empty_append, List.map_cons,
        String.join_cons, String.append_assoc] at h
      exact absurd (h.trans (String.append_empty).symm) (assetRow_ne_end _ _ _ _)
    | cons entry' entries' =>
      simp only [List.map_cons, String.join_cons, String.append_assoc] at h
      obtain ⟨hos, hasset, hrest⟩ := assetRow_append_inj h
      rw [ih hrest, Prod.ext hos hasset]

/-- The first sentence of a fragment tells the name of the release, if the date is
known. -/
theorem name_append_inj {name name' date x y : String}
    (h : escape name ++ (", which was made on " ++ (escape date ++ (".</p>\n" ++ x))) =
      escape name' ++ (", which was made on " ++ (escape date ++ (".</p>\n" ++ y)))) :
    name = name' ∧ x = y := by
  have hmarks : ∀ text, marks (escape text ++ (", which was made on " ++ escape date ++ ".")) =
      [] := by
    intro text
    simp only [marks_append, marks_escape]
    decide
  have hcut : ∀ text rest : String,
      escape text ++ (", which was made on " ++ (escape date ++ (".</p>\n" ++ rest))) =
        (escape text ++ (", which was made on " ++ escape date ++ ".")) ++ ("</p>\n" ++ rest) := by
    intro text rest
    rw [show ".</p>\n" = "." ++ "</p>\n" from rfl]
    simp only [String.append_assoc]
  rw [hcut, hcut] at h
  obtain ⟨hsentence, hrest⟩ := eq_of_append_markup ⟨_, _, rfl, rfl⟩ (hmarks _) (hmarks _) h
  rw [String.append_left_inj] at hsentence
  exact ⟨escape_injective hsentence, hrest⟩

/-- The marks of a fragment depend on the number of files only. -/
theorem marks_fragment {release other : Release} (h : release.assets.size = other.assets.size) :
    marks (fragment release) = marks (fragment other) := by
  have htarball := marks_sourceItem release.tarball other.tarball
  have hzipball := marks_sourceItem release.zipball other.zipball
  unfold fragment
  simp only [Release.sources, List.map_cons, List.map_nil, String.join_cons, String.join_nil,
    marks_append, marks_escape, marks_rows h, htarball, hzipball]

/-- A fragment tells everything it shows, if the date is known. -/
theorem shown_of_fragment {release other : Release} (hdate : release.date = other.date)
    (h : fragment release = fragment other) :
    release.name = other.name ∧ release.htmlUrl = other.htmlUrl ∧
      release.tarball = other.tarball ∧ release.zipball = other.zipball ∧
      release.assets.entries = other.assets.entries := by
  unfold fragment at h
  rw [hdate] at h
  simp only [Release.sources, List.map_cons, List.map_nil, String.join_cons, String.join_nil,
    String.append_assoc, String.append_right_inj, String.empty_append] at h
  -- The texts are cut off one after the other, each at the markup behind it.
  obtain ⟨hname, hnotes⟩ := name_append_inj h
  rw [String.append_right_inj] at hnotes
  obtain ⟨hurl, hsources⟩ := eq_of_escape_markup ⟨_, _, rfl, rfl⟩ hnotes
  rw [String.append_right_inj] at hsources
  obtain ⟨htarball, hsources⟩ := sourceItem_append_inj hsources
  obtain ⟨hzipball, htable⟩ := sourceItem_append_inj hsources
  simp only [String.append_right_inj] at htable
  exact ⟨hname, hurl, htarball, hzipball, rows_append_inj htable⟩

/-- The texts of a release have no influence on the markup of its fragment: the marks in it
depend on the number of files only. And the fragment loses nothing that it shows: two
releases of the same date with the same fragment have the same name, address of the notes
and sources, and the same labels and files in the same order. -/
theorem fragment_is_faithful :
    (∀ release other : Release, release.assets.size = other.assets.size →
      marks (fragment release) = marks (fragment other)) ∧
    ∀ release other : Release, release.date = other.date → fragment release = fragment other →
      release.name = other.name ∧ release.htmlUrl = other.htmlUrl ∧
      release.tarball = other.tarball ∧ release.zipball = other.zipball ∧
      release.assets.entries = other.assets.entries :=
  ⟨fun _ _ => marks_fragment, fun _ _ => shown_of_fragment⟩

/-- A release whose texts try to close the markup around them. -/
def hostileRelease : Release :=
  ⟨"</p><script>", "\" onclick='x", "", "1 Jan 2020", ⟨"t\">", "&lt;/a>"⟩, ⟨"z", "v1.zip"⟩,
    ⟨[("</td></tr>", ⟨"'", "<b>", "&#39;", "\"</a>"⟩)]⟩⟩

/-- A release with one file and plain texts. -/
def plainRelease : Release :=
  ⟨"v1", "h", "", "1 Jan 2020", ⟨"t", "v1.tar"⟩, ⟨"z", "v1.zip"⟩,
    ⟨[("Linux", ⟨"x86_64", "v1.rpm", "1.00 MB", "u"⟩)]⟩⟩

/-- Hostile texts give the markup of plain ones, and the fragment of a release with other
notes, which are not shown, is the same and tells the same texts. -/
theorem fragment_is_faithful_sample :
    marks (fragment hostileRelease) = marks (fragment plainRelease) ∧
      hostileRelease.name = { hostileRelease with body := "notes" }.name ∧
      hostileRelease.assets.entries = { hostileRelease with body := "notes" }.assets.entries := by
  obtain ⟨hname, -, -, -, hentries⟩ := fragment_is_faithful.2 hostileRelease
    { hostileRelease with body := "notes" } rfl (by unfold fragment; rfl)
  exact ⟨fragment_is_faithful.1 hostileRelease plainRelease rfl, hname, hentries⟩

end ReleasePage.Page
