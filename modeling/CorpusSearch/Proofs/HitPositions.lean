import CorpusSearch.Proofs.HitJoins
import CorpusSearch.Proofs.PlanMentions

/-!
Where hits lie, and which relations they hold. The spans of hits are made of positions of tokens, of what the
document stores and of fixed spans, so a set of spans that is closed under what operations do to spans and has these
holds all hits. Main statements: the relations that a hit holds are stored in the document; the spans that lie among
its tokens are such a set, and so are the short ones of a short document.
-/

set_option autoImplicit false

namespace CorpusSearch

/-! ### Closed sets of spans -/

/-- Whether a document stores a relation in one of its fields. -/
def Document.Stores (d : Document) (r : Relation) : Prop :=
  ∃ field content, d.get? field = some content ∧ r ∈ content.relations

/-- A set of spans that has both ends of all stored relations, and what covers two of its spans. -/
structure Document.ClosedCovers (d : Document) (ok : Span → Prop) : Prop where
  relation {r : Relation} (h : d.Stores r) : ok r.source ∧ ok r.target
  cover {a b : Span} (ha : ok a) (hb : ok b) : ok (a.cover b)

/-- A set of spans that has all spans of a document and is closed under what is done to the spans of hits. -/
structure Document.ClosedSpans (d : Document) (ok : Span → Prop) : Prop extends d.ClosedCovers ok where
  token {field : String} {content : FieldContent} {p : Nat} (h : d.get? field = some content)
    (hp : p < content.size) : ok (Hit.token p)
  gram {field : String} {start n : Nat} (h : start + n ≤ d.size field) :
    ok ⟨UInt32.ofNat start, UInt32.ofNat (start + n)⟩
  tag {field : String} {content : FieldContent} {tag : Tag} (h : d.get? field = some content)
    (htag : tag ∈ content.tags) : ok tag.span
  append {a b : Span} (ha : ok a) (hb : ok b) (h : b.start = a.stop) : ok ⟨a.start, b.stop⟩
  leading {s : Span} (hs : ok s) : ok ⟨s.start, s.start⟩
  trailing {s : Span} (hs : ok s) : ok ⟨s.stop, s.stop⟩
  left {s : Span} {n : Nat} (hs : ok s) (hn : n ≤ s.start.toNat) :
    ok ⟨UInt32.ofNat (s.start.toNat - n), s.stop⟩
  right {field : String} {s : Span} {n : Nat} (hs : ok s) (hn : n ≤ d.size field - s.stop.toNat) :
    ok ⟨s.start, UInt32.ofNat (s.stop.toNat + n)⟩

private theorem Document.closedSpans_all (d : Document) : d.ClosedSpans fun _ => True where
  token _ _ := trivial
  gram _ := trivial
  relation _ := ⟨trivial, trivial⟩
  tag _ _ := trivial
  cover _ _ := trivial
  append _ _ _ := trivial
  leading _ := trivial
  trailing _ := trivial
  left _ _ := trivial
  right _ _ := trivial

/-- The positions of a span are in order, and below half of what a position can be. -/
structure Span.Short (s : Span) : Prop where
  le : s.start.toNat ≤ s.stop.toNat
  lt : s.stop.toNat < 2147483648

/-- Fields have less than half as many tokens as there are positions, and what is stored is as short. -/
structure Document.Short (d : Document) : Prop where
  size {field : String} {content : FieldContent} (h : d.get? field = some content) :
    content.size < 2147483648
  relation {r : Relation} (h : d.Stores r) : r.source.Short ∧ r.target.Short
  tag {field : String} {content : FieldContent} {tag : Tag} (h : d.get? field = some content)
    (htag : tag ∈ content.tags) : tag.span.Short

/-- Fields have at most `limit` tokens, and what is stored lies among as many. -/
structure Document.FitsIn (d : Document) (limit : Nat) : Prop where
  size {field : String} {content : FieldContent} (h : d.get? field = some content) : content.size ≤ limit
  relation {r : Relation} (h : d.Stores r) : r.source.FitsIn limit ∧ r.target.FitsIn limit
  tag {field : String} {content : FieldContent} {tag : Tag} (h : d.get? field = some content)
    (htag : tag ∈ content.tags) : tag.span.FitsIn limit

namespace Span

theorem toNat_min (a b : UInt32) : (min a b).toNat = min a.toNat b.toNat := by
  show (if a ≤ b then a else b).toNat = min a.toNat b.toNat
  by_cases h : a ≤ b
  · rw [if_pos h, Nat.min_eq_left (UInt32.le_iff_toNat_le.1 h)]
  · rw [UInt32.le_iff_toNat_le] at h
    rw [if_neg (by rwa [UInt32.le_iff_toNat_le]), Nat.min_eq_right (by omega)]

theorem toNat_max (a b : UInt32) : (max a b).toNat = max a.toNat b.toNat := by
  show (if a ≤ b then b else a).toNat = max a.toNat b.toNat
  by_cases h : a ≤ b
  · rw [if_pos h, Nat.max_eq_right (UInt32.le_iff_toNat_le.1 h)]
  · rw [UInt32.le_iff_toNat_le] at h
    rw [if_neg (by rwa [UInt32.le_iff_toNat_le]), Nat.max_eq_left (by omega)]

theorem toNat_ofNat_of_short {n : Nat} (h : n < 2147483648) : (UInt32.ofNat n).toNat = n :=
  toNat_ofNat_of_lt (by omega)

variable {limit : Nat} {a b s : Span}

theorem FitsIn.cover (ha : a.FitsIn limit) (hb : b.FitsIn limit) : (a.cover b).FitsIn limit := by
  have hle := ha.le
  have hstop := ha.stop_le
  have hstop' := hb.stop_le
  constructor
  · rw [Span.cover, toNat_min, toNat_max]
    omega
  · rw [Span.cover, toNat_max]
    omega

theorem FitsIn.append (ha : a.FitsIn limit) (hb : b.FitsIn limit) (hadjacent : b.start = a.stop) :
    FitsIn ⟨a.start, b.stop⟩ limit := by
  have hle := ha.le
  have hle' := hb.le
  rw [hadjacent] at hle'
  exact ⟨Nat.le_trans hle hle', hb.stop_le⟩

private theorem short_iff_fitsIn : s.Short ↔ s.FitsIn 2147483647 :=
  ⟨fun h => ⟨h.le, Nat.le_of_lt_succ h.lt⟩, fun h => ⟨h.le, Nat.lt_succ_of_le h.stop_le⟩⟩

theorem Short.append (ha : a.Short) (hb : b.Short) (hadjacent : b.start = a.stop) : Short ⟨a.start, b.stop⟩ :=
  short_iff_fitsIn.2 ((short_iff_fitsIn.1 ha).append (short_iff_fitsIn.1 hb) hadjacent)

end Span

namespace Document

variable {d : Document} {limit : Nat}

theorem FitsIn.size_le (hd : d.FitsIn limit) (field : String) : d.size field ≤ limit := by
  unfold Document.size
  split
  · rename_i content hcontent
    rw [UInt32.toNat_ofNat']
    exact (Nat.mod_le _ _).trans (hd.size hcontent)
  · exact Nat.zero_le _

/-- Operations keep the spans of hits among the tokens. -/
theorem FitsIn.closedSpans (hd : d.FitsIn limit) (hlimit : limit < 4294967296) :
    d.ClosedSpans fun s => s.FitsIn limit where
  token hcontent hp := by
    have hsize := hd.size hcontent
    exact Span.fitsIn_ofNat (Nat.le_succ _) (by omega) hlimit
  gram {field _ _} hgram := by
    have hsize := hd.size_le field
    exact Span.fitsIn_ofNat (by omega) (by omega) hlimit
  relation := hd.relation
  tag := hd.tag
  cover ha hb := ha.cover hb
  append ha hb hadjacent := ha.append hb hadjacent
  leading hs := ⟨Nat.le_refl _, hs.le.trans hs.stop_le⟩
  trailing hs := ⟨Nat.le_refl _, hs.stop_le⟩
  left {s n} hs _ := by
    have hle := hs.le
    have hstop := hs.stop_le
    have hstart : (UInt32.ofNat (s.start.toNat - n)).toNat = s.start.toNat - n :=
      Span.toNat_ofNat_of_lt (by omega)
    refine ⟨?_, hstop⟩
    show (UInt32.ofNat (s.start.toNat - n)).toNat ≤ s.stop.toNat
    omega
  right {field s n} hs hn := by
    have hle := hs.le
    have hstop := hs.stop_le
    have hsize := hd.size_le field
    have hto : (UInt32.ofNat (s.stop.toNat + n)).toNat = s.stop.toNat + n :=
      Span.toNat_ofNat_of_lt (by omega)
    constructor
    · show s.start.toNat ≤ (UInt32.ofNat (s.stop.toNat + n)).toNat
      omega
    · show (UInt32.ofNat (s.stop.toNat + n)).toNat ≤ limit
      omega

theorem Short.fitsIn (h : d.Short) : d.FitsIn 2147483647 where
  size hcontent := Nat.le_of_lt_succ (h.size hcontent)
  relation hr := (h.relation hr).imp Span.short_iff_fitsIn.1 Span.short_iff_fitsIn.1
  tag hcontent htag := Span.short_iff_fitsIn.1 (h.tag hcontent htag)

theorem Short.size_lt (h : d.Short) (field : String) : d.size field < 2147483648 :=
  Nat.lt_succ_of_le (h.fitsIn.size_le field)

/-- Short spans stay short. -/
theorem Short.closedSpans (h : d.Short) : d.ClosedSpans Span.Short := by
  have hshort : Span.Short = fun s => s.FitsIn 2147483647 := funext fun _ => propext Span.short_iff_fitsIn
  rw [hshort]
  exact h.fitsIn.closedSpans (by decide)

end Document

/-! ### Hits -/

/-- A hit whose span is in a set, and whose relations are stored in the document. -/
structure Hit.Placed (d : Document) (ok : Span → Prop) (h : Hit) : Prop where
  span : ok h.span
  stored : ∀ r ∈ h.relations, d.Stores r

namespace Hit

variable {d : Document} {ok : Span → Prop} {a b : Hit} {xs ys : List Hit}

private theorem placed_ofSpan {s : Span} (h : ok s) : Placed d ok (ofSpan s) := ⟨h, fun _ hr => nomatch hr⟩

theorem Placed.merge (ha : Placed d ok a) (hb : Placed d ok b) {s : Span} (hs : ok s) :
    Placed d ok (a.merge b s) := by
  refine ⟨hs, fun r hr => ?_⟩
  rcases List.mem_append.1 hr with hr | hr
  · exact ha.stored r hr
  · exact hb.stored r hr

theorem Placed.withSpan (ha : Placed d ok a) {s : Span} (hs : ok s) : Placed d ok (a.withSpan s) :=
  ⟨hs, ha.stored⟩

theorem Placed.withCapture (ha : Placed d ok a) (name : String) (value : CaptureValue) :
    Placed d ok (a.withCapture name value) := ⟨ha.span, ha.stored⟩

/-! ### Spans of relations -/

section Covers

variable (hd : d.ClosedCovers ok)

include hd

private theorem ok_fullSpan {r : Relation} (h : d.Stores r) : ok r.fullSpan :=
  hd.cover (hd.relation h).1 (hd.relation h).2

private theorem ok_spanFor {r : Relation} (h : d.Stores r) (mode : SpanMode) : ok (r.spanFor mode) := by
  cases mode with
  | source => exact (hd.relation h).1
  | target => exact (hd.relation h).2
  | full => exact ok_fullSpan hd h
  | all => exact ok_fullSpan hd h

private theorem ok_foldl_cover {rs : List Relation} (hrs : ∀ r ∈ rs, d.Stores r) {s : Span} (hs : ok s) :
    ok (rs.foldl (fun span r => span.cover r.fullSpan) s) := by
  induction rs generalizing s with
  | nil => exact hs
  | cons r rs ih =>
      obtain ⟨hr, hrs⟩ := List.forall_mem_cons.1 hrs
      exact ih hrs (hd.cover hs (ok_fullSpan hd hr))

theorem ok_relationSpan (ha : Placed d ok a) (mode : SpanMode) : ok (a.relationSpan mode) := by
  cases hrelations : a.relations with
  | nil => simpa [relationSpan, hrelations] using ha.span
  | cons r rs =>
      have hstored : ∀ q ∈ r :: rs, d.Stores q := hrelations ▸ ha.stored
      have hfirst := ok_spanFor hd (hstored r List.mem_cons_self) mode
      cases mode with
      | all => simpa [relationSpan, hrelations] using ok_foldl_cover hd hstored ha.span
      | source => simpa [relationSpan, hrelations] using hfirst
      | target => simpa [relationSpan, hrelations] using hfirst
      | full => simpa [relationSpan, hrelations] using hfirst

end Covers

/-! ### Operations -/

section Operations

variable (hd : d.ClosedSpans ok)

include hd

private theorem placed_of_joined {connective : PlanConnective} (hxs : ∀ a ∈ xs, Placed d ok a)
    (hys : ∀ b ∈ ys, Placed d ok b) {c : Hit} (h : Joined xs ys connective c) : Placed d ok c := by
  cases h with
  | both _ ha hb _ => exact (hxs _ ha).merge (hys _ hb) (hxs _ ha).span
  | left ha => exact hxs _ ha
  | right hb => exact hys _ hb
  | behind ha hb hadjacent =>
      exact (hxs _ ha).merge (hys _ hb) (hd.append (hxs _ ha).span (hys _ hb).span hadjacent)

private theorem placed_of_mem_nGrams {field : String} {low high : UInt32} (h : a ∈ nGrams (d.size field) low high) :
    Placed d ok a := by
  obtain ⟨n, -, -, start, hstart, rfl⟩ := mem_nGrams.1 h
  exact placed_ofSpan (hd.gram hstart)

private theorem placed_of_mem_rows {field : String} {low high : UInt32} (hxs : ∀ a ∈ xs, Placed d ok a)
    (h : a ∈ rows (d.size field) low high xs) : Placed d ok a := by
  rcases mem_rows_iff.1 h with ⟨-, p, hp, rfl⟩ | ⟨n, -, -, -, hrow⟩
  · exact placed_ofSpan (hd.gram (n := 0) hp)
  · refine IsRow.forall hxs (fun a b ha hb hadjacent => ?_) hrow
    exact ha.merge hb (hd.append ha.span hb.span hadjacent)

private theorem placed_of_mem_expand {field : String} {direction : ExpansionDirection} {low high : UInt32}
    (ha : Placed d ok a) (h : b ∈ expand (d.size field) direction low high a) : Placed d ok b := by
  cases direction with
  | left =>
      obtain ⟨n, hn, rfl⟩ := List.mem_map.1 h
      have hn := (mem_between.1 hn).2
      exact ha.withSpan (hd.left ha.span (by omega))
  | right =>
      obtain ⟨n, hn, rfl⟩ := List.mem_map.1 h
      have hn : n ≤ d.size field - a.span.stop.toNat := by
        have hle := (mem_between.1 hn).2
        omega
      exact ha.withSpan (hd.right ha.span hn)

private theorem placed_edge (ha : Placed d ok a) (trailing : Bool) : Placed d ok (edge trailing a) := by
  cases trailing with
  | true => exact ha.withSpan (hd.trailing ha.span)
  | false => exact ha.withSpan (hd.leading ha.span)

end Operations

private theorem placed_of_mem_filterPositions {test : PositionTest} (hxs : ∀ a ∈ xs, Placed d ok a)
    (h : b ∈ filterPositions test xs ys) : Placed d ok b := by
  obtain ⟨a, ha, hsome⟩ := List.mem_filterMap.1 h
  have hplaced := hxs a ha
  split at hsome
  · obtain rfl := Option.some.inj hsome
    exact hplaced
  · obtain rfl := Option.some.inj hsome
    exact ⟨hplaced.span, hplaced.stored⟩
  · cases hsome
  · cases hsome

private theorem placed_of_align {head : AlignmentHead} {relations : List Relation} (ha : Placed d ok a)
    (hys : ∀ b ∈ ys, Placed d ok b) (h : align head relations ys a = some b) : Placed d ok b := by
  unfold align at h
  dsimp only at h
  split at h
  · rename_i t ht
    obtain rfl := Option.some.inj h
    obtain ⟨span, _, hfound⟩ := Option.bind_eq_some_iff.1 ht
    exact (ha.merge (hys t (List.mem_of_find?_eq_some hfound)) ha.span).withCapture _ _
  · split at h
    · obtain rfl := Option.some.inj h
      exact ha
    · cases h

end Hit

/-! ### Leaves -/

namespace Document

variable {d : Document} {ok : Span → Prop}

theorem getD_eq_or (d : Document) (field : String) :
    d.get? field = some ((d.get? field).getD FieldContent.empty) ∨
      (d.get? field).getD FieldContent.empty = FieldContent.empty := by
  cases d.get? field with
  | none => exact .inr rfl
  | some content => exact .inl rfl

private theorem get?_or_eq_empty_of_contentAt {name : String} {content : FieldContent}
    (h : d.contentAt name = .ok content) :
    (∃ field, d.get? field = some content) ∨ content = FieldContent.empty := by
  obtain ⟨⟨field, _, _⟩, _, h⟩ := Result.bind_eq_ok.1 h
  obtain rfl := Except.ok.inj h
  exact (d.getD_eq_or field).imp_left fun hget => ⟨field, hget⟩

theorem stores_of_contentAt {name : String} {content : FieldContent} (h : d.contentAt name = .ok content)
    {r : Relation} (hr : r ∈ content.relations) : d.Stores r := by
  rcases get?_or_eq_empty_of_contentAt h with ⟨field, hget⟩ | rfl
  · exact ⟨field, content, hget, hr⟩
  · cases hr

end Document

namespace Hit

variable {d : Document} {ok : Span → Prop} {hs : List Hit}

/-- A test finds single tokens of a field. -/
theorem token_of_mem_tokenHits {name : String} {test : String → Bool} (h : tokenHits d name test = .ok hs)
    {a : Hit} (ha : a ∈ hs) :
    ∃ field content p, d.get? field = some content ∧ p < content.size ∧ ofSpan (token p) = a := by
  obtain ⟨⟨field, layer, s⟩, _, h⟩ := Result.bind_eq_ok.1 h
  obtain rfl := Except.ok.inj h
  obtain ⟨⟨values, p⟩, hmem, hfound⟩ := List.mem_filterMap.1 ha
  have hp : p < ((d.get? field).getD FieldContent.empty).tokens.length :=
    (List.getElem?_eq_some_iff.1 (List.mk_mem_zipIdx_iff_getElem?.1 hmem)).1
  have htoken : ofSpan (token p) = a := by
    dsimp only at hfound
    split at hfound
    · split at hfound
      · exact Option.some.inj hfound
      · cases hfound
    · cases hfound
  rcases d.getD_eq_or field with hget | hempty
  · exact ⟨field, _, p, hget, hp, htoken⟩
  · rw [hempty] at hp
    exact absurd hp (Nat.not_lt_zero p)

def tagHit (query : TagQuery) (t : Tag) : Hit :=
  (ofSpan (adjustTag query.adjust t.span)).withCapture query.capture (.span t.span)

private theorem exists_of_mem_matchingTags {query : TagQuery} {type : Regex.Core} {tags : List Tag}
    (h : matchingTags query type tags = .ok hs) {a : Hit} (ha : a ∈ hs) :
    ∃ t ∈ tags, tagHit query t = a := by
  induction tags generalizing hs with
  | nil =>
      obtain rfl := Except.ok.inj h
      cases ha
  | cons t tags ih =>
      have hbehind : ∀ {found : Result Bool}, (do
          let matched ← found
          let others ← matchingTags query type tags
          if matched then
            return tagHit query t :: others
          return others) = Except.ok hs → ∃ u ∈ t :: tags, tagHit query u = a := by
        intro found h
        obtain ⟨matched, _, h⟩ := Result.bind_eq_ok.1 h
        obtain ⟨others, hothers, h⟩ := Result.bind_eq_ok.1 h
        have hrest : a ∈ others → ∃ u ∈ t :: tags, tagHit query u = a := by
          intro ha
          obtain ⟨u, hu, rfl⟩ := ih hothers ha
          exact ⟨u, List.mem_cons_of_mem _ hu, rfl⟩
        split at h
        · obtain rfl := Except.ok.inj h
          rcases List.mem_cons.1 ha with rfl | ha
          · exact ⟨t, List.mem_cons_self, rfl⟩
          · exact hrest ha
        · obtain rfl := Except.ok.inj h
          exact hrest ha
      rw [matchingTags] at h
      split at h
      · exact hbehind h
      · exact hbehind h

theorem exists_of_mem_tagHits {query : TagQuery} (h : tagHits d query = .ok hs) {a : Hit} (ha : a ∈ hs) :
    ∃ field content t, d.get? field = some content ∧ t ∈ content.tags ∧
      tagHit query t = a := by
  obtain ⟨type, _, h⟩ := Result.bind_eq_ok.1 h
  obtain ⟨content, hcontent, h⟩ := Result.bind_eq_ok.1 h
  obtain ⟨t, ht, hta⟩ := exists_of_mem_matchingTags h ha
  rcases Document.get?_or_eq_empty_of_contentAt hcontent with ⟨field, hget⟩ | rfl
  · exact ⟨field, content, t, hget, ht, hta⟩
  · cases ht

section Leaves

variable (hd : d.ClosedSpans ok)

include hd

private theorem placed_of_tokenHits {name : String} {test : String → Bool} (h : tokenHits d name test = .ok hs) :
    ∀ a ∈ hs, Placed d ok a := by
  intro a ha
  obtain ⟨field, content, p, hget, hp, rfl⟩ := token_of_mem_tokenHits h ha
  exact placed_ofSpan (hd.token hget hp)

private theorem placed_of_tagHits {query : TagQuery} (h : tagHits d query = .ok hs) : ∀ a ∈ hs, Placed d ok a := by
  intro a ha
  obtain ⟨field, content, t, hget, ht, rfl⟩ := exists_of_mem_tagHits h ha
  have hspan := hd.tag hget ht
  refine (placed_ofSpan ?_).withCapture _ _
  cases query.adjust with
  | fullTag => exact hspan
  | leadingEdge => exact hd.leading hspan
  | trailingEdge => exact hd.trailing hspan

end Leaves

theorem placed_of_relationHits (hd : d.ClosedCovers ok) {query : RelationQuery}
    (h : relationHits d query = .ok hs) :
    ∀ a ∈ hs, Placed d ok a := by
  obtain ⟨type, _, h⟩ := Result.bind_eq_ok.1 h
  obtain ⟨content, hcontent, h⟩ := Result.bind_eq_ok.1 h
  obtain rfl := Except.ok.inj h
  intro a ha
  obtain ⟨r, hr, rfl⟩ := List.mem_map.1 ha
  have hstored := Document.stores_of_contentAt hcontent (List.mem_of_mem_filter hr)
  exact ⟨ok_spanFor hd hstored _, List.forall_mem_singleton.2 hstored⟩

end Hit

/-! ### Plans -/

/-- Fixed spans of these that lie within a field of the document are in the set; others are never found. -/
def Document.FixedSpansIn (d : Document) (ok : Span → Prop) (mentions : List PlanMention) : Prop :=
  ∀ s field, .span s ∈ mentions → s.stop.toNat ≤ d.size field → ok s

section FixedSpans

variable {d : Document} {ok : Span → Prop} {ms ns : List PlanMention} (h : d.FixedSpansIn ok (ms ++ ns))

include h

theorem Document.FixedSpansIn.left : d.FixedSpansIn ok ms :=
  fun s field hs => h s field (List.mem_append_left _ hs)

theorem Document.FixedSpansIn.right : d.FixedSpansIn ok ns :=
  fun s field hs => h s field (List.mem_append_right _ hs)

end FixedSpans

namespace SearchScope

variable {scope : SearchScope} {ok : Span → Prop}

private theorem placed_of_mem_modified (hd : scope.document.ClosedSpans ok) {prepared : List Relation} {xs : List Hit}
    {m : PlanModifier} (hxs : ∀ a ∈ xs, Hit.Placed scope.document ok a) :
    ∀ a ∈ scope.modified prepared xs m, Hit.Placed scope.document ok a := by
  intro a ha
  cases m with
  | not field =>
      obtain ⟨p, hp, -, rfl⟩ := Hit.mem_complement.1 ha
      exact Hit.placed_ofSpan (hd.gram (n := 1) hp)
  | repeated field low high => exact Hit.placed_of_mem_rows hd hxs ha
  | expanded field direction low high =>
      obtain ⟨b, hb, ha⟩ := List.mem_flatMap.1 ha
      exact Hit.placed_of_mem_expand hd (hxs b hb) ha
  | filteredNGrams field operation low high => exact Hit.placed_of_mem_nGrams hd (List.mem_of_mem_filter ha)
  | capture name =>
      obtain ⟨b, hb, rfl⟩ := List.mem_map.1 ha
      exact (hxs b hb).withCapture _ _
  | edge trailing =>
      obtain ⟨b, hb, rfl⟩ := List.mem_map.1 ha
      exact Hit.placed_edge hd (hxs b hb) trailing
  | relationSpan mode =>
      obtain ⟨b, hb, rfl⟩ := List.mem_map.1 ha
      exact (hxs b hb).withSpan (Hit.ok_relationSpan hd.toClosedCovers (hxs b hb) mode)
  | relationsWithin query =>
      obtain ⟨b, hb, rfl⟩ := List.mem_map.1 ha
      exact (hxs b hb).withCapture _ _
  | constrained constraint field layers => exact hxs a (List.mem_of_mem_filter ha)

-- One induction over plans, lists of clauses and lists of targets, as they are evaluated.
mutual

theorem placed_of_hits (hd : scope.document.ClosedSpans ok) : (plan : Plan) →
    scope.document.FixedSpansIn ok plan.mentions → {hs : List Hit} → scope.hits plan = .ok hs →
      ∀ a ∈ hs, Hit.Placed scope.document ok a
  | .term field value, _, hs, h => by
      rw [hits] at h
      obtain ⟨found, hfound, h⟩ := Result.bind_eq_ok.1 h
      obtain rfl := Except.ok.inj h
      exact fun a ha => Hit.placed_of_tokenHits hd hfound a (Hit.mem_sorted.1 ha)
  | .regex field expression, _, hs, h => by
      rw [hits] at h
      obtain ⟨core, _, h⟩ := Result.bind_eq_ok.1 h
      obtain ⟨found, hfound, h⟩ := Result.bind_eq_ok.1 h
      obtain rfl := Except.ok.inj h
      exact fun a ha => Hit.placed_of_tokenHits hd hfound a (Hit.mem_sorted.1 ha)
  | .anyToken field low high, _, hs, h => by
      rw [hits] at h
      obtain rfl := Except.ok.inj h
      exact fun a ha => Hit.placed_of_mem_nGrams hd (Hit.mem_sorted.1 ha)
  | .fixedSpan field span, hspans, hs, h => by
      rw [hits] at h
      obtain rfl := Except.ok.inj h
      split
      · rename_i hlies
        have hspan := hspans span field (by simp [Plan.mentions]) hlies
        exact List.forall_mem_singleton.2 (Hit.placed_ofSpan hspan)
      · exact List.forall_mem_nil _
  | .tags query, _, hs, h => by
      rw [hits] at h
      obtain ⟨found, hfound, h⟩ := Result.bind_eq_ok.1 h
      obtain rfl := Except.ok.inj h
      exact fun a ha => Hit.placed_of_tagHits hd hfound a (Hit.mem_sorted.1 ha)
  | .relations query, _, hs, h => by
      rw [hits] at h
      obtain ⟨found, hfound, h⟩ := Result.bind_eq_ok.1 h
      obtain rfl := Except.ok.inj h
      exact fun a ha => Hit.placed_of_relationHits hd.toClosedCovers hfound a (Hit.mem_sorted.1 ha)
  | .join connective clauses, hspans, hs, h => by
      rw [hits] at h
      obtain ⟨found, hfound, h⟩ := Result.bind_eq_ok.1 h
      obtain rfl := Except.ok.inj h
      have hclauses := placed_of_hitLists hd clauses hspans hfound
      have hjoined : ∀ a ∈ Hit.joined connective found, Hit.Placed scope.document ok a :=
        Hit.forall_joined (fun hx hy => Hit.placed_of_joined hd hx hy) hclauses
      exact fun a ha => hjoined a (Hit.mem_sorted.1 ha)
  | .modify modifier clause, hspans, hs, h => by
      have hclause := hspans.right
      rw [hits] at h
      obtain ⟨prepared, _, h⟩ := Result.bind_eq_ok.1 h
      obtain ⟨found, hfound, h⟩ := Result.bind_eq_ok.1 h
      obtain rfl := Except.ok.inj h
      exact fun a ha => placed_of_mem_modified hd (placed_of_hits hd clause hclause hfound) a (Hit.mem_sorted.1 ha)
  | .positionFilter test producer filter, hspans, hs, h => by
      have hproducer := hspans.left
      rw [hits] at h
      obtain ⟨partners, _, h⟩ := Result.bind_eq_ok.1 h
      obtain ⟨found, hfound, h⟩ := Result.bind_eq_ok.1 h
      obtain rfl := Except.ok.inj h
      have hplaced := placed_of_hits hd producer hproducer hfound
      exact fun a ha => Hit.placed_of_mem_filterPositions hplaced (Hit.mem_sorted.1 ha)
  | .align source targets, hspans, hs, h => by
      have hsource := hspans.left
      have htargets := hspans.right
      rw [hits] at h
      obtain ⟨found, hfound, h⟩ := Result.bind_eq_ok.1 h
      obtain ⟨aligned, haligned, h⟩ := Result.bind_eq_ok.1 h
      obtain rfl := Except.ok.inj h
      have hplaced := placed_of_hits hd source hsource hfound
      exact fun a ha => placed_of_alignAll hd targets htargets hplaced haligned a (Hit.mem_sorted.1 ha)

private theorem placed_of_hitLists (hd : scope.document.ClosedSpans ok) : (plans : List Plan) →
    scope.document.FixedSpansIn ok (Plan.mentionsOf plans) → {hss : List (List Hit)} →
      scope.hitLists plans = .ok hss → ∀ hs ∈ hss, ∀ a ∈ hs, Hit.Placed scope.document ok a
  | [], _, hss, h => by
      rw [hitLists] at h
      obtain rfl := Except.ok.inj h
      exact List.forall_mem_nil _
  | plan :: plans, hspans, hss, h => by
      have hplan := hspans.left
      have hplans := hspans.right
      rw [hitLists] at h
      obtain ⟨first, hfirst, h⟩ := Result.bind_eq_ok.1 h
      obtain ⟨rest, hrest, h⟩ := Result.bind_eq_ok.1 h
      obtain rfl := Except.ok.inj h
      exact List.forall_mem_cons.2
        ⟨placed_of_hits hd plan hplan hfirst, placed_of_hitLists hd plans hplans hrest⟩

private theorem placed_of_alignAll (hd : scope.document.ClosedSpans ok) : (targets : List (AlignmentHead × Plan)) →
    scope.document.FixedSpansIn ok (Plan.targetMentions targets) → {sources hs : List Hit} →
      (∀ a ∈ sources, Hit.Placed scope.document ok a) → scope.alignAll targets sources = .ok hs →
        ∀ a ∈ hs, Hit.Placed scope.document ok a
  | [], _, sources, hs, hsources, h => by
      rw [alignAll] at h
      obtain rfl := Except.ok.inj h
      exact hsources
  | (head, target) :: targets, hspans, sources, hs, hsources, h => by
      have hrest : scope.document.FixedSpansIn ok (target.mentions ++ Plan.targetMentions targets) :=
        fun s field hs => hspans s field (List.mem_cons_of_mem _ (List.mem_cons_of_mem _ hs))
      have htarget := hrest.left
      have htargets := hrest.right
      rw [alignAll] at h
      obtain ⟨relations, _, h⟩ := Result.bind_eq_ok.1 h
      obtain ⟨found, hfound, h⟩ := Result.bind_eq_ok.1 h
      refine placed_of_alignAll hd targets htargets (fun a ha => ?_) h
      obtain ⟨b, hb, hsome⟩ := List.mem_filterMap.1 ha
      exact Hit.placed_of_align (hsources b hb) (placed_of_hits hd target htarget hfound) hsome

end

end SearchScope

theorem SearchScope.stores_of_hits {scope : SearchScope} {plan : Plan} {hs : List Hit}
    (h : scope.hits plan = .ok hs) {a : Hit} (ha : a ∈ hs) {r : Relation} (hr : r ∈ a.relations) :
    scope.document.Stores r :=
  (placed_of_hits scope.document.closedSpans_all plan (fun _ _ _ _ => trivial) h a ha).stored r hr

end CorpusSearch
