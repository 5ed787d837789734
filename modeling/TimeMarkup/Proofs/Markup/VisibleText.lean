import Mathlib.Algebra.Order.BigOperators.Group.List
import TimeMarkup.Proofs.Markup.Pieces
import TimeMarkup.Proofs.Markup.References
import TimeMarkup.Proofs.Markup.Rewriting
import TimeMarkup.Proofs.Text.Numerals

/-!
# The visible text of content

Content is text with tags in between. Taking the tags out ends each of them at its first bracket, in
quotes or not, and decodes what is left as one text, so that there are references whose parts stand
on two sides of a tag.
-/

namespace TimeMarkup.Markup

theorem stripTags_of_gt_not_mem {body : List Char} (h : '>' ∉ body) (rest : List Char) :
    stripTags ('<' :: (body ++ '>' :: rest)) = stripTags rest := by
  have hdrop : (body ++ '>' :: rest).dropWhile (· != '>') = '>' :: rest := by
    refine Text.dropWhile_append_of_head (fun c hc => ?_) (fun c hc => ?_)
    · simpa using ne_of_mem_of_not_mem hc h
    · obtain rfl := Option.some.inj hc
      rfl
  rw [stripTags, if_pos rfl]
  split
  · rename_i heq
    rw [hdrop] at heq
    rw [(List.cons.inj heq).2]
  · rename_i heq
    rw [hdrop] at heq
    cases heq

/-- A closing bracket ends what is taken out, so that the text behind it can be looked at alone. -/
theorem stripTags_append_gt (cs rest : List Char) :
    stripTags (cs ++ '>' :: rest) = stripTags (cs ++ ['>']) ++ stripTags rest := by
  induction h : cs.length using Nat.strong_induction_on generalizing cs with
  | _ n ih =>
    subst h
    cases cs with
    | nil => simp [stripTags_cons_of_ne]
    | cons c cs =>
      by_cases hc : c = '<'
      · subst hc
        by_cases hgt : '>' ∈ cs
        · obtain ⟨body, inner, rfl, hbody⟩ := List.eq_append_cons_of_mem hgt
          have hinner := ih inner.length (by simp; omega) inner rfl
          simp only [List.cons_append, List.append_assoc, stripTags_of_gt_not_mem hbody, hinner]
        · simp [stripTags_of_gt_not_mem hgt]
      · have hcs := ih cs.length (by simp) cs rfl
        simp only [List.cons_append, stripTags_cons_of_ne hc, hcs]

theorem stripTags_append_of_not_mem {cs : List Char} (h : '<' ∉ cs) (rest : List Char) :
    stripTags (cs ++ rest) = cs ++ stripTags rest := by
  induction cs with
  | nil => rfl
  | cons c cs ih =>
    rw [List.mem_cons, not_or] at h
    rw [List.cons_append, stripTags_cons_of_ne (Ne.symm h.1), ih h.2, List.cons_append]

/-- Wherever a tag has a bracket inside, another one opens right behind it. -/
def Chained (body : List Char) : Prop :=
  ∀ after, '>' :: after <:+ body → ∃ cs, after = '<' :: cs

theorem chained_of_not_mem {body : List Char} (h : '>' ∉ body) : Chained body :=
  fun _ hafter => absurd (hafter.subset List.mem_cons_self) h

theorem chained_append_iff {body inner : List Char} (h : '>' ∉ body) :
    Chained (body ++ '>' :: inner) ↔ (∃ cs, inner = '<' :: cs) ∧ Chained inner := by
  constructor
  · intro hchained
    refine ⟨hchained inner (List.suffix_append _ _), fun after hafter => hchained after ?_⟩
    exact hafter.trans ((List.suffix_cons '>' inner).trans (List.suffix_append body _))
  · rintro ⟨hinner, hchained⟩ after ⟨front, hfront⟩
    rcases List.append_eq_append_iff.mp hfront with ⟨as, rfl, has⟩ | ⟨as, rfl, has⟩
    · cases as with
      | nil => rwa [(List.cons.inj has).2]
      | cons a as =>
        obtain ⟨rfl, -⟩ := List.cons.inj has
        exact absurd (List.mem_append_right front List.mem_cons_self) h
    · cases as with
      | nil => rwa [← (List.cons.inj has).2]
      | cons a as => exact hchained after ⟨as, (List.cons.inj has).2.symm⟩

theorem chained_cons_iff {c : Char} (h : c ≠ '>') {body : List Char} :
    Chained (c :: body) ↔ Chained body := by
  constructor
  · exact fun hchained after hafter => hchained after (hafter.trans (List.suffix_cons c body))
  · intro hchained after hafter
    rcases List.suffix_cons_iff.mp hafter with heq | hafter
    · exact absurd (List.cons.inj heq).1.symm h
    · exact hchained after hafter

/-- Just the tags without other brackets, and those that are several tags end to end for the one who
does not see quotes, leave no text. -/
theorem stripTags_tag_eq_nil_iff {body : List Char} :
    stripTags ('<' :: (body ++ ['>'])) = [] ↔ Chained body := by
  induction h : body.length using Nat.strong_induction_on generalizing body with
  | _ n ih =>
    subst h
    by_cases hgt : '>' ∈ body
    · obtain ⟨front, inner, rfl, hfront⟩ := List.eq_append_cons_of_mem hgt
      rw [List.append_assoc, List.cons_append, stripTags_of_gt_not_mem hfront,
        chained_append_iff hfront]
      cases inner with
      | nil => simp [stripTags_cons_of_ne]
      | cons c cs =>
        by_cases hc : c = '<'
        · subst hc
          have hcs := @ih cs.length (by simp; omega) cs rfl
          rw [List.cons_append, hcs, chained_cons_iff (by decide)]
          simp
        · simp [stripTags_cons_of_ne hc, hc]
    · simp [stripTags_of_gt_not_mem hgt, chained_of_not_mem hgt]

instance (body : List Char) : Decidable (Chained body) :=
  decidable_of_iff _ stripTags_tag_eq_nil_iff

/-- Text without an opening bracket, or a complete tag, in which quotes hide brackets. -/
inductive Fragment
  | text (cs : List Char) (plain : '<' ∉ cs)
  | tag (body : List Char) (paired : Paired body)

namespace Fragment

def source : Fragment → List Char
  | text cs _ => cs
  | tag body _ => '<' :: body ++ ['>']

/-- What a reader of the page sees of a fragment, with references as they are written. -/
def visible : Fragment → List Char
  | text cs _ => cs
  | tag _ _ => []

/-- What is left of a fragment when tags are taken out of a text. -/
def shown (f : Fragment) : List Char :=
  stripTags f.source

def IsHidden : Fragment → Prop
  | text _ _ => True
  | tag body _ => Chained body

instance : DecidablePred IsHidden
  | text _ _ => inferInstanceAs (Decidable True)
  | tag body _ => inferInstanceAs (Decidable (Chained body))

theorem shown_of_isHidden {f : Fragment} (h : f.IsHidden) : f.shown = f.visible := by
  cases f with
  | text cs plain => exact stripTags_of_not_mem plain
  | tag body paired => exact stripTags_tag_eq_nil_iff.mpr h

end Fragment

theorem stripTags_fragment_append (f : Fragment) (rest : List Char) :
    stripTags (f.source ++ rest) = f.shown ++ stripTags rest := by
  cases f with
  | text cs plain =>
    rw [Fragment.shown, Fragment.source, stripTags_append_of_not_mem plain,
      stripTags_of_not_mem plain]
  | tag body paired =>
    have hbracket := stripTags_append_gt ('<' :: body) rest
    simpa [Fragment.shown, Fragment.source] using hbracket

theorem stripTags_fragments (fs : List Fragment) :
    stripTags (fs.flatMap Fragment.source) = fs.flatMap Fragment.shown := by
  induction fs with
  | nil => exact stripTags_nil
  | cons f fs ih => rw [List.flatMap_cons, stripTags_fragment_append, ih, List.flatMap_cons]

theorem length_decode_visible_le (f : Fragment) :
    (decode f.visible).length ≤ (decode f.shown).length := by
  cases f with
  | text cs plain => rw [Fragment.shown_of_isHidden (f := .text cs plain) trivial]
  | tag body paired =>
    rw [Fragment.visible, decode_nil]
    exact Nat.zero_le _

/-- What is shown of a tag makes the text longer. -/
theorem length_decode_visible_lt {f : Fragment} (h : ¬ f.IsHidden) :
    (decode f.visible).length < (decode f.shown).length := by
  cases f with
  | text cs plain => exact absurd trivial h
  | tag body paired =>
    have hshown : (Fragment.tag body paired).shown ≠ [] := mt stripTags_tag_eq_nil_iff.mp h
    have hdecoded := List.length_pos_iff.mpr (mt decode_eq_nil_iff.mp hshown)
    rwa [Fragment.visible, decode_nil]

theorem flatMap_decode_shown_eq_iff {fs : List Fragment} :
    fs.flatMap (fun f => decode f.shown) = fs.flatMap (fun f => decode f.visible) ↔
      ∀ f ∈ fs, f.IsHidden := by
  constructor
  · intro h f hf
    by_contra hshows
    have hshorter := List.sum_lt_sum (fun f : Fragment => (decode f.visible).length)
      (fun f => (decode f.shown).length) (fun f _ => length_decode_visible_le f)
      ⟨f, hf, length_decode_visible_lt hshows⟩
    rw [← List.length_flatMap, ← List.length_flatMap, h] at hshorter
    exact Nat.lt_irrefl _ hshorter
  · exact fun h => List.flatMap_congr fun f hf => by rw [Fragment.shown_of_isHidden (h f hf)]

theorem Layout.map_textContent_contents (place : Nat) (ss : List Stretch) :
    (ofStretches ss).contents.map textContent = (Element.ofStretches place ss).map (·.text) := by
  fun_induction ofStretches ss generalizing place with
  | case1 => rfl
  | case2 name tagBody content closing ss h l ih =>
    have hcontents : contents ⟨(openingTag name tagBody, content) :: l.cuts, l.rest⟩ =
        content :: (ofStretches ss).contents :=
      congrArg (content :: ·) (contents_behind closing (ofStretches ss))
    rw [hcontents, List.map_cons, ih, Element.ofStretches_optedIn h]
    rfl
  | case3 name tagBody content closing ss h ih =>
    rw [contents_behind, Element.ofStretches_notOptedIn h, ih]
  | case4 s ss hs ih => rw [contents_behind, Element.ofStretches_other hs, ih]

namespace Document

/-- The text of an element is the visible text of its content. -/
theorem text_of_mem_parse {source content : List Char} {e : Element}
    (he : e ∈ (parse source).elements) (hcontent : Text.slice? e.content source = some content) :
    e.text = textContent content := by
  obtain ⟨i, hi, rfl⟩ := List.getElem_of_mem he
  have htexts := congrArg (·[i]?) (Layout.map_textContent_contents 0 (scan source))
  simp only [List.getElem?_map] at htexts
  change _ = Option.map _ (parse source).elements[i]? at htexts
  rw [List.getElem?_eq_getElem hi, Option.map_some, Option.map_eq_some_iff] at htexts
  obtain ⟨content', hcontent', htext⟩ := htexts
  rw [slice?_content_of_getElem? (List.getElem?_eq_getElem hi) hcontent', Option.some.injEq]
    at hcontent
  rw [← hcontent, ← htext]

/-- Where nothing of a tag shows, the text of an element is made of the decoded texts of its content
just if no reference reaches across a tag. Where no reference does, it is made of them just if
nothing of a tag shows. -/
theorem text_eq_decoded_iff {source : List Char} {e : Element} {fs : List Fragment}
    (he : e ∈ (parse source).elements)
    (hcontent : Text.slice? e.content source = some (fs.flatMap Fragment.source)) :
    ((∀ f ∈ fs, f.IsHidden) →
        (e.text = fs.flatMap (fun f => decode f.visible) ↔ Unjoined Fragment.visible fs)) ∧
      (Unjoined Fragment.shown fs →
        (e.text = fs.flatMap (fun f => decode f.visible) ↔ ∀ f ∈ fs, f.IsHidden)) := by
  have htext : e.text = decode (fs.flatMap Fragment.shown) := by
    rw [text_of_mem_parse he hcontent, textContent, stripTags_fragments]
  constructor
  · intro hhidden
    rw [htext, List.flatMap_congr fun f hf => Fragment.shown_of_isHidden (hhidden f hf)]
    exact decode_flatMap_eq_iff Fragment.visible
  · intro hunjoined
    rw [htext, (decode_flatMap_eq_iff Fragment.shown).mpr hunjoined]
    exact flatMap_decode_shown_eq_iff

/-- A quoted value with brackets that hide each other, a reference within a text, and an ampersand
in front of a tag. -/
theorem text_eq_decoded_of_quoted_brackets :
    let source := "<time data-local-time><b title='a><i'>1 &lt; 2</b>, AT&<br/>T</time>".toList
    let fs : List Fragment := [
      .tag "b title='a><i'".toList (by decide),
      .text "1 &lt; 2".toList (by decide),
      .tag "/b".toList (by decide),
      .text ", AT&".toList (by decide),
      .tag "br/".toList (by decide),
      .text "T".toList (by decide)]
    let e : Element := ⟨[⟨"data-local-time".toList, []⟩], ⟨22, 61⟩, "1 < 2, AT&T".toList, false⟩
    e ∈ (parse source).elements ∧ Text.slice? e.content source = some (fs.flatMap Fragment.source) ∧
      ((∀ f ∈ fs, f.IsHidden) ∧
        (e.text = fs.flatMap (fun f => decode f.visible) ↔ Unjoined Fragment.visible fs)) ∧
      Unjoined Fragment.shown fs ∧
      (e.text = fs.flatMap (fun f => decode f.visible) ↔ ∀ f ∈ fs, f.IsHidden) := by
  intro source fs e
  have he : e ∈ (parse source).elements := by decide +kernel
  have hcontent : Text.slice? e.content source = some (fs.flatMap Fragment.source) := by
    decide +kernel
  have hhidden : ∀ f ∈ fs, f.IsHidden := by decide +kernel
  have hunjoined : Unjoined Fragment.shown fs :=
    (decode_flatMap_eq_iff Fragment.shown).mp (by decide +kernel)
  have h := text_eq_decoded_iff he hcontent
  exact ⟨he, hcontent, ⟨hhidden, h.1 hhidden⟩, hunjoined, h.2 hunjoined⟩

/-- A bracket within quotes ends what is taken out of a text, and a reference is read whose parts
stand around a tag. -/
theorem text_shows_value_and_joins_reference :
    let page (fs : List Fragment) :=
  "<time data-local-time>".toList ++ fs.flatMap Fragment.source ++ "</time>".toList
    let shows (fs : List Fragment) (text : String) := ∃ e ∈ (parse (page fs)).elements,
      Text.slice? e.content (page fs) = some (fs.flatMap Fragment.source) ∧ e.text = text.toList
    let quoted : List Fragment :=
      [.text "1".toList (by decide), .tag "b title='a>b'".toList (by decide),
        .text "x".toList (by decide), .tag "/b".toList (by decide), .text "2".toList (by decide)]
    let split : List Fragment := [.text "&am".toList (by decide), .tag "b".toList (by decide),
      .text "p;".toList (by decide), .tag "/b".toList (by decide)]
    (shows quoted "1b'>x2" ∧ quoted.flatMap (fun f => decode f.visible) = "1x2".toList) ∧
      shows split "&" ∧ split.flatMap (fun f => decode f.visible) = "&amp;".toList := by
  intro page shows quoted split
  have hquoted : shows quoted "1b'>x2" :=
    ⟨⟨[⟨"data-local-time".toList, []⟩], ⟨22, 44⟩, "1b'>x2".toList,
      false⟩, by decide +kernel, by decide +kernel, rfl⟩
  have hsplit : shows split "&" :=
    ⟨⟨[⟨"data-local-time".toList, []⟩], ⟨22, 34⟩, "&".toList,
      false⟩, by decide +kernel, by decide +kernel, rfl⟩
  exact ⟨⟨hquoted, by decide +kernel⟩, hsplit, by decide +kernel⟩

end Document

end TimeMarkup.Markup
