import TimeMarkup.Proofs.Locale.Spellings

/-!
# Language tags with all their subtags

A language tag may say more than language and region: extended languages, a script, variants,
extensions and private use. The subtags in front of the region never look like one, nor do variants.
What belongs to an extension or to private use may, and is then taken for the region of a tag that
has none.
-/

namespace TimeMarkup

/-- A subtag of `lo` to `hi` characters of one class. -/
structure IsRun (p : Char → Bool) (lo hi : Nat) (w : List Char) : Prop where
  lo_le : lo ≤ w.length
  le_hi : w.length ≤ hi
  all : ∀ c ∈ w, p c = true

/-- Two letters for a country, or three digits for an area. -/
def IsRegionSubtag (w : List Char) : Prop :=
  IsRun Char.isAlpha 2 2 w ∨ IsRun Char.isDigit 3 3 w

/-- Five characters or more, or four of which the first is a digit. -/
def IsVariantSubtag (w : List Char) : Prop :=
  IsRun Char.isAlphanum 5 8 w ∨ IsRun Char.isAlphanum 4 4 w ∧ ∃ c ∈ w.head?, c.isDigit = true

/-- A single character of a class, and any number of subtags that belong to it, of at least `lo`
characters each. -/
structure SubtagGroup (p : Char → Bool) (lo : Nat) where
  singleton : Char
  members : List { w // IsRun Char.isAlphanum lo 8 w }
  singleton_mem : singleton.isAlphanum = true ∧ p singleton = true

def SubtagGroup.subtags {p : Char → Bool} {lo : Nat} (g : SubtagGroup p lo) : List (List Char) :=
  [g.singleton] :: g.members.map Subtype.val

/-- A tag of the grammar for language tags (BCP 47), part by part. Extensions start with a single
character other than `x`, and private use with `x`. -/
structure LanguageTag where
  language : { w // IsRun Char.isAlpha 2 3 w }
  extended : List { w // IsRun Char.isAlpha 3 3 w }
  script : Option { w // IsRun Char.isAlpha 4 4 w }
  region : Option { w // IsRegionSubtag w }
  variants : List { w // IsVariantSubtag w }
  extensions : List (SubtagGroup (fun c => c.toLower != 'x') 2)
  privateUse : Option (SubtagGroup (fun c => c.toLower == 'x') 1)

section Runs
variable {p : Char → Bool} {lo hi : Nat} {w : List Char}

theorem IsRun.imp {q : Char → Bool} (h : IsRun p lo hi w) (hpq : ∀ c, p c = true → q c = true) :
    IsRun q lo hi w :=
  ⟨h.lo_le, h.le_hi, fun c hc => hpq c (h.all c hc)⟩

theorem IsRun.ne_nil (h : IsRun p lo hi w) (hlo : 0 < lo) : w ≠ [] :=
  List.ne_nil_of_length_pos (Nat.lt_of_lt_of_le hlo h.lo_le)

theorem isRegion_iff_isRegionSubtag : LocaleTag.isRegion w = true ↔ IsRegionSubtag w := by
  have hrun (p : Char → Bool) (n : Nat) : (w.length = n ∧ ∀ c ∈ w, p c = true) ↔ IsRun p n n w :=
    ⟨fun h => ⟨Nat.le_of_eq h.1.symm, Nat.le_of_eq h.1, h.2⟩,
      fun h => ⟨Nat.le_antisymm h.le_hi h.lo_le, h.all⟩⟩
  rw [LocaleTag.isRegion_iff, hrun, hrun]
  rfl

theorem IsRegionSubtag.length (h : IsRegionSubtag w) : w.length = 2 ∨ w.length = 3 :=
  h.imp (fun h => Nat.le_antisymm h.le_hi h.lo_le) (fun h => Nat.le_antisymm h.le_hi h.lo_le)

theorem not_isRegionSubtag_of_length (h : w.length < 2 ∨ 3 < w.length) : ¬ IsRegionSubtag w := by
  intro hregion
  have hlength := hregion.length
  omega

/-- Three letters or more name no region. -/
theorem IsRun.not_isRegionSubtag (h : IsRun Char.isAlpha lo hi w) (hlo : 2 < lo) :
    ¬ IsRegionSubtag w := by
  have hlength := h.lo_le
  rintro (hletters | hdigits)
  · have hshort := hletters.le_hi
    omega
  · obtain ⟨c, w, rfl⟩ := List.exists_cons_of_ne_nil (h.ne_nil (by omega))
    have hletter := Text.isAlpha_iff.mp (h.all c List.mem_cons_self)
    have hdigit := Text.isDigit_iff.mp (hdigits.all c List.mem_cons_self)
    omega

theorem IsVariantSubtag.not_isRegionSubtag (h : IsVariantSubtag w) : ¬ IsRegionSubtag w :=
  not_isRegionSubtag_of_length (.inr (h.elim (fun h => Nat.lt_of_lt_of_le (by decide) h.lo_le)
    fun h => Nat.lt_of_lt_of_le (by decide) h.1.lo_le))

/-- A subtag of letters and digits, as all subtags of a language tag are. -/
def IsSubtag (w : List Char) : Prop :=
  w ≠ [] ∧ ∀ c ∈ w, c.isAlphanum = true

theorem IsRun.isSubtag (h : IsRun p lo hi w) (hlo : 0 < lo)
    (hp : ∀ c, p c = true → c.isAlphanum = true) :
    IsSubtag w :=
  ⟨h.ne_nil hlo, (h.imp hp).all⟩

theorem IsRun.isSubtag_of_isAlpha (h : IsRun Char.isAlpha lo hi w) (hlo : 0 < lo) : IsSubtag w :=
  h.isSubtag hlo fun _ hc => Text.isAlphanum_iff.mpr (.inl hc)

theorem IsRegionSubtag.isSubtag (h : IsRegionSubtag w) : IsSubtag w :=
  h.elim (fun h => h.isSubtag_of_isAlpha (by decide))
    fun h => h.isSubtag (by decide) fun _ hc => Text.isAlphanum_iff.mpr (.inr hc)

theorem IsVariantSubtag.isSubtag (h : IsVariantSubtag w) : IsSubtag w :=
  h.elim (fun h => h.isSubtag (by decide) fun _ hc => hc) fun h =>
    h.1.isSubtag (by decide) fun _ hc => hc

theorem SubtagGroup.isSubtag (g : SubtagGroup p lo) (hlo : 0 < lo) (h : w ∈ g.subtags) :
    IsSubtag w := by
  rcases List.mem_cons.mp h with rfl | h
  · refine ⟨List.cons_ne_nil _ _, fun c hc => ?_⟩
    rw [List.mem_singleton.mp hc]
    exact g.singleton_mem.1
  · obtain ⟨v, -, rfl⟩ := List.mem_map.mp h
    exact v.property.isSubtag hlo fun _ hc => hc

end Runs

namespace LanguageTag
variable (t : LanguageTag)

/-- The subtags between the language and the region. -/
def beforeRegion : List (List Char) :=
  t.extended.map Subtype.val ++ (t.script.map Subtype.val).toList

/-- The subtags of extensions and of private use. -/
def attached : List (List Char) :=
  t.extensions.flatMap SubtagGroup.subtags ++ t.privateUse.toList.flatMap SubtagGroup.subtags

def subtags : List (List Char) :=
  t.language.val ::
    (t.beforeRegion ++ (t.region.map Subtype.val).toList ++ t.variants.map Subtype.val ++
      t.attached)

def text : List Char :=
  Text.joined ['-'] t.subtags

theorem isSubtag_of_mem_subtags {w : List Char} (h : w ∈ t.subtags) : IsSubtag w := by
  simp only [subtags, beforeRegion, attached, List.mem_cons, List.mem_append, List.mem_map,
    List.mem_flatMap, Option.mem_toList, Option.map_eq_some_iff] at h
  rcases h with rfl | ((((⟨v, -, rfl⟩ | ⟨v, -, rfl⟩) | ⟨v, -, rfl⟩) | ⟨v, -, rfl⟩) |
    (⟨g, -, hw⟩ | ⟨g, -, hw⟩))
  · exact t.language.property.isSubtag_of_isAlpha (by decide)
  · exact v.property.isSubtag_of_isAlpha (by decide)
  · exact v.property.isSubtag_of_isAlpha (by decide)
  · exact v.property.isSubtag
  · exact v.property.isSubtag
  · exact g.isSubtag (by decide) hw
  · exact g.isSubtag (by decide) hw

theorem not_isRegionSubtag_of_mem_beforeRegion {w : List Char} (h : w ∈ t.beforeRegion) :
    ¬ IsRegionSubtag w := by
  rcases List.mem_append.mp h with h | h
  · obtain ⟨v, -, rfl⟩ := List.mem_map.mp h
    exact v.property.not_isRegionSubtag (by decide)
  · rw [Option.mem_toList, Option.map_eq_some_iff] at h
    obtain ⟨v, -, rfl⟩ := h
    exact v.property.not_isRegionSubtag (by decide)

theorem find?_isRegion_eq_none {ws : List (List Char)} (h : ∀ w ∈ ws, ¬ IsRegionSubtag w) :
    ws.find? LocaleTag.isRegion = none :=
  List.find?_eq_none.mpr fun w hw => isRegion_iff_isRegionSubtag.not.mpr (h w hw)

/-- Only the region itself and what is attached to the tag can be found in the place of the
region. -/
theorem find?_isRegion :
    (t.beforeRegion ++ (t.region.map Subtype.val).toList ++ t.variants.map Subtype.val ++
        t.attached).find? LocaleTag.isRegion =
      (t.region.map Subtype.val).or (t.attached.find? LocaleTag.isRegion) := by
  have hbefore := find?_isRegion_eq_none fun _ h => t.not_isRegionSubtag_of_mem_beforeRegion h
  have hvariants : (t.variants.map Subtype.val).find? LocaleTag.isRegion = none := by
    refine find?_isRegion_eq_none fun w hw => ?_
    obtain ⟨v, -, rfl⟩ := List.mem_map.mp hw
    exact v.property.not_isRegionSubtag
  have hregion : (t.region.map Subtype.val).toList.find? LocaleTag.isRegion =
      t.region.map Subtype.val := by
    cases t.region with
    | none => rfl
    | some r => exact List.find?_cons_of_pos (isRegion_iff_isRegionSubtag.mpr r.property)
  rw [List.find?_append, List.find?_append, List.find?_append, hbefore, hvariants, hregion,
    Option.none_or, Option.or_none]

theorem isLanguage_language : LocaleTag.isLanguage t.language.val = true := by
  have hlo := t.language.property.lo_le
  have hhi := t.language.property.le_hi
  exact LocaleTag.isLanguage_iff.mpr ⟨by omega, t.language.property.all⟩

theorem words_text :
    Text.words LocaleTag.isSeparator (LocaleTag.base (Text.trim t.text)) = t.subtags := by
  have hplain {w : List Char} (hw : w ∈ t.subtags) {c : Char} (hc : c ∈ w) :=
    LocaleTag.plain_of_isAlphanum (Text.isAlphanum_iff.mp ((t.isSubtag_of_mem_subtags hw).2 c hc))
  have htext : ∀ c ∈ t.text, isBlank c = false ∧ LocaleTag.isMark c = false := by
    intro c hc
    obtain hc | ⟨w, hw, hc⟩ := Text.mem_joined hc
    · rw [List.mem_singleton.mp hc]
      exact ⟨by decide, by decide⟩
    · exact (hplain hw hc).imp_right And.right
  have hwords (w : List Char) (hw : w ∈ t.subtags) :
      w ≠ [] ∧ ∀ c ∈ w, LocaleTag.isSeparator c = false :=
    ⟨(t.isSubtag_of_mem_subtags hw).1, fun c hc => (hplain hw hc).2.1⟩
  rw [Text.trim_of_solid fun c hc => (htext c hc).1,
    LocaleTag.base_of_no_mark fun c hc => (htext c hc).2, text,
    Text.words_joined hwords (by decide)]

theorem ofChars?_text : LocaleTag.ofChars? t.text =
    some
      { language := String.ofList (t.language.val.map Char.toLower)
        region := ((t.region.map Subtype.val).or (t.attached.find? LocaleTag.isRegion)).map fun r =>
          String.ofList (r.map Char.toUpper) } := by
  rw [LocaleTag.ofChars?_eq, words_text, subtags, LocaleTag.ofSubtags?,
    if_pos t.isLanguage_language, find?_isRegion]

/-- Every language tag is read, with its language in small letters. The region read is that of the
tag in capitals, or none if it has none, unless it has none and something that is attached to it
looks like a region. -/
theorem ofChars?_region_eq_iff :
    ∃ tag, LocaleTag.ofChars? t.text = some tag ∧
      tag.language = String.ofList (t.language.val.map Char.toLower) ∧
      (tag.region = t.region.map (fun r => String.ofList (r.val.map Char.toUpper)) ↔
        (t.region = none → ∀ w ∈ t.attached, ¬ IsRegionSubtag w)) := by
  refine ⟨_, t.ofChars?_text, rfl, ?_⟩
  cases t.region with
  | none =>
    simp only [Option.map_none, Option.none_or, Option.map_eq_none_iff, List.find?_eq_none,
      isRegion_iff_isRegionSubtag, forall_const]
  | some r => simp

end LanguageTag

/-- English with dates in the Gregorian calendar, and without a region. -/
def gregorianEnglish : LanguageTag :=
  let calendar : SubtagGroup (fun c => c.toLower != 'x') 2 :=
    { singleton := 'u'
      members :=
        [⟨"ca".toList, by decide, by decide, List.all_eq_true.mp rfl⟩,
          ⟨"gregory".toList, by decide, by decide, List.all_eq_true.mp rfl⟩]
      singleton_mem := by decide }
  { language := ⟨"en".toList, by decide, by decide, List.all_eq_true.mp rfl⟩
    extended := []
    script := none
    region := none
    variants := []
    extensions := [calendar]
    privateUse := none }

/-- The key of an extension is read as the region, here as Canada. -/
theorem ofChars?_gregorianEnglish :
    gregorianEnglish.region = none ∧ gregorianEnglish.text = "en-u-ca-gregory".toList ∧
      LocaleTag.ofChars? gregorianEnglish.text = some ⟨"en", some "CA"⟩ :=
  ⟨rfl, by decide, by decide⟩

end TimeMarkup
