import CorpusSearch.Proofs.RelationText

/-!
The kinds of chunks that stand for a pattern by themselves. Each kind is known by its first item, a colon, its last
item or its brackets, so the kind of a pattern can be seen in its chunk. Main statement: a chunk is of one kind only.
-/

set_option autoImplicit false

namespace CorpusSearch.QueryText

/-- The constructs of patterns that look different. -/
inductive TextKind where
  | constrained
  /-- Clauses with keywords or relations between them. -/
  | position
  | joined (connective : Connective)
  | negation
  /-- The name of a capture stands before it. -/
  | named
  | repeated
  | brackets
  /-- Empty brackets. -/
  | anyToken
  | tags
  | placeholder
  | word
  | call
  deriving DecidableEq

def TextKind.level : TextKind → Level
  | constrained => .constraint
  | position => .position
  | joined connective => connectiveLevel connective
  | negation | named => .prefixed
  | repeated => .postfixed
  | brackets | anyToken | tags | placeholder | word | call => .atom

/-- The chunks that stand for a pattern by themselves. -/
inductive ChunkOf : TextKind → Chunk → Prop
  | negation {c : Chunk} (h : Solid c) : ChunkOf .negation (.char '!' :: c)
  | named {name : String} {c : Chunk} (hname : IsName name) (h : Solid c) :
      ChunkOf .named (captureItems (some name) ++ c)
  | repeated {body : Chunk} {min max : UInt32} {mark : List Char} (h : Body body) (hmark : Mark min max mark)
      (hne : mark ≠ []) : ChunkOf .repeated (body ++ chars mark)
  | brackets {content : List TextItem} (hne : content ≠ []) : ChunkOf .brackets [.group .square content]
  | anyToken : ChunkOf .anyToken [.group .square []]
  | tags (content : List TextItem) : ChunkOf .tags [.group .angle content]
  | placeholder : ChunkOf .placeholder (chars ['_'])
  | plain {first : Char} {rest : List Char} (h : Body (chars (first :: rest)))
      (hfirst : Unicode.isAlphanumeric first = true) : ChunkOf .word (chars (first :: rest))
  | quoted (text : List Char) : ChunkOf .word [.quoted text]
  | call {name : String} (hname : IsName name) (content : List TextItem) :
      ChunkOf .call (chars name.toList ++ [.group .round content])

theorem TextKind.eq_of_level {kind kind' : TextKind} (h : kind.level.rank < 5)
    (heq : kind.level.rank = kind'.level.rank) : kind = kind' := by
  cases kind with
  | constrained => rcases kind' with _ | _ | (_ | _ | _) | _ <;> first | rfl | cases heq
  | position => rcases kind' with _ | _ | (_ | _ | _) | _ <;> first | rfl | cases heq
  | joined connective =>
      rcases connective with _ | _ | _ <;> rcases kind' with _ | _ | (_ | _ | _) | _ <;> first | rfl | cases heq
  | _ => exact absurd h (by decide)

namespace ChunkOf

variable {kind : TextKind} {c : Chunk}

/-- What binds more strongly than what stands behind a mark or a name can have a repetition mark. -/
theorem body (h : ChunkOf kind c) (hlevel : kind.level = .atom) : Body c := by
  cases h with
  | negation | named | repeated => cases hlevel
  | brackets | anyToken | tags | quoted => exact body_item (by simp)
  | placeholder => exact body_placeholder
  | plain h => exact h
  | call hname content => exact body_call hname content

private theorem solid (h : ChunkOf kind c) (hlevel : 6 ≤ kind.level.rank) : Solid c := by
  by_cases hatom : kind.level = .atom
  · exact (h.body hatom).toSolid
  · cases h with
    | negation | named => exact absurd hlevel (by decide)
    | repeated h hmark => exact h.solid_append hmark
    | _ => exact absurd rfl hatom

end ChunkOf

theorem chunkOf_wordChunk {t : TokenTest} (h : isPlainWord t.expression = true → IsDistinct t.expression) :
    ChunkOf .word (wordChunk t) := by
  have hbody := body_wordChunk h
  by_cases hplain : isPlainWord t.expression = true
  · obtain ⟨first, rest, htext, hfirst⟩ : ∃ first rest, t.expression.toList = first :: rest ∧
        Unicode.isAlphanumeric first = true := by
      unfold isPlainWord at hplain
      split at hplain
      · cases hplain
      · rename_i first rest htext
        exact ⟨first, rest, htext, (Bool.and_eq_true_iff.1 hplain).1⟩
    rw [wordChunk, if_pos hplain, htext] at hbody ⊢
    exact .plain hbody hfirst
  · rw [wordChunk, if_neg hplain]
    exact .quoted _

/-! ### Telling kinds apart -/

def isColon : TextItem → Bool
  | .char c => c = ':'
  | _ => false

def startsNegated : Chunk → Bool
  | .char c :: _ => c = '!'
  | _ => false

def atomKind (c : Chunk) : TextKind :=
  match c, c.getLast? with
  | [.group .square []], _ => .anyToken
  | [.group .square _], _ => .brackets
  | [.group .angle _], _ => .tags
  | _, some (.group _ _) => .call
  | [.char c], _ => if c = '_' then .placeholder else .word
  | _, _ => .word

def kindOf (c : Chunk) : TextKind :=
  if startsNegated c then .negation
  else if c.any isColon then .named
  else if endsInMark c then .repeated
  else atomKind c

private theorem any_isColon {c : Chunk} : c.any isColon = true ↔ .char ':' ∈ c := by
  rw [List.any_eq_true]
  constructor
  · rintro ⟨item, hitem, hcolon⟩
    cases item with
    | char d =>
        obtain rfl : d = ':' := of_decide_eq_true hcolon
        exact hitem
    | quoted | group => cases hcolon
  · intro hmem
    exact ⟨_, hmem, rfl⟩

private theorem Solid.startsNegated {c : Chunk} (h : Solid c) : startsNegated c = false := by
  cases c with
  | nil => rfl
  | cons item rest =>
      cases item with
      | char d =>
          have hname := h.starts d rfl
          refine decide_eq_false ?_
          rintro rfl
          exact absurd hname (by rw [isNameChar_eq_false_of_mem (by decide)]; decide)
      | quoted | group => rfl

private theorem Solid.any_isColon {c : Chunk} (h : Solid c) : c.any isColon = false :=
  Bool.eq_false_iff.2 fun hcolon => h.noColon (QueryText.any_isColon.1 hcolon)

theorem Body.kindOf {c : Chunk} (h : Body c) : kindOf c = atomKind c := by
  rw [QueryText.kindOf, h.startsNegated, h.any_isColon, h.ends]
  rfl

/-- The kind of a chunk can be seen. -/
theorem ChunkOf.kindOf {kind : TextKind} {c : Chunk} (h : ChunkOf kind c) : kindOf c = kind := by
  by_cases hatom : kind.level = .atom
  · rw [(h.body hatom).kindOf]
    cases h with
    | negation | named | repeated => cases hatom
    | @brackets content hne =>
        cases content with
        | nil => exact absurd rfl hne
        | cons => rfl
    | anyToken | tags | quoted => rfl
    | placeholder => rfl
    | @plain first rest h hfirst =>
        have hne : first ≠ '_' := by
          rintro rfl
          exact absurd hfirst (by decide +kernel)
        obtain ⟨last, hlast⟩ : ∃ last, (first :: rest).getLast? = some last :=
          ⟨_, List.getLast?_eq_some_getLast (List.cons_ne_nil first rest)⟩
        have hitem : (chars (first :: rest)).getLast? = some (.char last) := by
          rw [chars, List.getLast?_map, hlast]
          rfl
        unfold atomKind
        rw [hitem]
        cases rest with
        | nil => exact if_neg hne
        | cons => rfl
    | @call name hname content =>
        obtain ⟨d, rest, htext, -⟩ := hname.exists_cons
        unfold atomKind
        rw [List.getLast?_concat, htext]
        rfl
  · cases h with
    | negation h => rfl
    | @named name c hname h =>
        have hstart : startsNegated (captureItems (some name) ++ c) = false := by
          obtain ⟨d, rest, htext, hd⟩ := hname.exists_cons
          rw [captureItems, htext]
          refine decide_eq_false ?_
          rintro rfl
          exact absurd hd (by rw [isNameChar_eq_false_of_mem (by decide)]; decide)
        have hcolon : (captureItems (some name) ++ c).any isColon = true :=
          any_isColon.2 (by simp [captureItems])
        rw [QueryText.kindOf, hstart, hcolon]
        rfl
    | @repeated body min max mark h hmark hne =>
        have hsolid := h.solid_append hmark
        rw [QueryText.kindOf, hsolid.startsNegated, hsolid.any_isColon, endsInMark_append hmark hne]
        rfl
    | _ => exact absurd rfl hatom

/-! ### Numbers -/

private theorem intText_ne_nil (n : Int) : (toString n).toList ≠ [] := by
  cases n with
  | ofNat n => exact natText_ne_nil n
  | negSucc n =>
      rw [intText_negSucc]
      exact List.cons_ne_nil _ _

theorem kindOf_intText (n : Int) : kindOf (chars (toString n).toList) = .word := by
  have hnot : ∀ c ∈ "!:*+?\x7d_".toList, c ∉ (toString n).toList := by
    have hall : ∀ c ∈ "!:*+?\x7d_".toList, c.isDigit = false ∧ c ≠ '-' := by decide
    exact fun c hc => notMem_intText (hall c hc).1 (hall c hc).2
  obtain ⟨init, last, hsplit⟩ : ∃ init last, (toString n).toList = init ++ [last] :=
    ⟨_, _, (List.dropLast_append_getLast (intText_ne_nil n)).symm⟩
  obtain ⟨first, rest, htext⟩ := List.exists_cons_of_ne_nil (intText_ne_nil n)
  have hstart : startsNegated (chars (toString n).toList) = false := by
    rw [htext]
    refine decide_eq_false ?_
    rintro rfl
    exact hnot '!' (by decide) (htext ▸ List.mem_cons_self)
  have hcolon : (chars (toString n).toList).any isColon = false :=
    Bool.eq_false_iff.2 fun hcolon => notMem_chars (hnot ':' (by decide)) (any_isColon.1 hcolon)
  have hends : endsInMark (chars (toString n).toList) = false := by
    rw [hsplit, chars_append]
    refine (endsInMark_concat _ _).trans (Bool.eq_false_iff.2 fun hmark => ?_)
    have hall : ∀ c ∈ "*+?\x7d".toList, c ∈ "!:*+?\x7d_".toList := by decide
    exact hnot last (hall last (by simpa using hmark)) (hsplit ▸ List.mem_append_right _ List.mem_cons_self)
  have hlast : (chars (toString n).toList).getLast? = some (.char last) := by
    rw [hsplit, chars_append]
    exact List.getLast?_concat
  rw [kindOf, hstart, hcolon, hends]
  change atomKind _ = _
  unfold atomKind
  rw [hlast, htext]
  cases rest with
  | nil =>
      refine if_neg ?_
      rintro rfl
      exact hnot '_' (by decide) (htext ▸ List.mem_cons_self)
  | cons => rfl

theorem isChunk_intText (n : Int) : IsChunk (chars (toString n).toList) :=
  .chars (intText_ne_nil n) (notMem_intText (by decide) (by decide))
    fun hlast => notMem_intText (c := ',') (a := n) (by decide) (by decide) (List.mem_of_getLast? hlast)

theorem not_mark_intText (n : Int) (level : Nat) : ¬PatternMark level (chars (toString n).toList) := by
  have hnot : ∀ {c : Char}, c.isDigit = false ∧ c ≠ '-' → .char c ∉ chars (toString n).toList :=
    fun hc => notMem_chars (notMem_intText hc.1 hc.2)
  intro hmark
  generalize hc : chars (toString n).toList = c at hmark hnot
  cases hmark with
  | constraint => exact hnot (c := ':') (by decide) (by simp [chars])
  | keyword hword =>
      simp only [List.mem_cons, List.not_mem_nil, or_false] at hword
      rcases hword with rfl | rfl | rfl
      · exact hnot (c := 'w') (by decide) (by simp [chars])
      · exact hnot (c := 'c') (by decide) (by simp [chars])
      · exact hnot (c := ';') (by decide) (by simp [chars])
  | relation h => exact hnot (c := '>') (by decide) (mem_headChunk _)
  | or => exact hnot (c := '|') (by decide) (by simp [chars])
  | and => exact hnot (c := '&') (by decide) (by simp [chars])

/-! ### Shapes -/

theorem ChunkOf.shape {kind : TextKind} {c : Chunk} (h : ChunkOf kind c) : Shape PatternMark kind.level.rank [c] := by
  by_cases hlevel : 6 ≤ kind.level.rank
  · have hsolid := h.solid hlevel
    refine Shape.single (by omega) hsolid.isChunk (not_mark_of_solid hsolid) ?_
    rintro content rfl
    generalize hgroup : [TextItem.group .round content] = c at h
    cases h with
    | negation | named => exact absurd hlevel (by decide)
    | repeated h hmark hne =>
        have hlength := congrArg List.length hgroup
        have hbody := List.length_pos_iff.2 h.isChunk.ne_nil
        have hmarks := List.length_pos_iff.2 hne
        simp only [List.length_append, chars, List.length_map, List.length_cons, List.length_nil] at hlength
        omega
    | call hname =>
        obtain ⟨d, rest, htext, -⟩ := hname.exists_cons
        simp [htext, chars] at hgroup
    | _ => simp [chars] at hgroup
  · cases h with
    | negation h => exact Shape.single (by decide) (h.isChunk.cons (by simp)) (not_mark_negated h) (by simp)
    | @named name c hname h =>
        refine Shape.single (by decide) (h.isChunk.append_left ?_) (not_mark_captured hname h) ?_
        · simpa [captureItems] using hname.notMem_chars (c := ' ') (by decide)
        · obtain ⟨d, rest, htext, -⟩ := hname.exists_cons
          simp [captureItems, htext, chars]
    | _ => exact absurd (by decide) hlevel

theorem exists_solidSlot {kind : TextKind} {chunks : List Chunk}
    (h : 5 ≤ kind.level.rank → ∃ c, chunks = [c] ∧ ChunkOf kind c) :
    ∃ c, slot 6 kind.level.rank chunks = [c] ∧ Solid c := by
  unfold slot
  split
  · exact ⟨_, rfl, (body_item (by simp)).toSolid⟩
  · obtain ⟨c, hchunks, hc⟩ := h (by omega)
    exact ⟨c, hchunks, hc.solid (by omega)⟩

private theorem Level.eq_atom_of_rank {level : Level} (h : 7 ≤ level.rank) : level = .atom := by
  cases level with
  | atom => rfl
  | _ => exact absurd h (by decide)

/-- Where a repetition mark follows, a single chunk stands without a mark. -/
theorem exists_bodySlot {kind : TextKind} {chunks : List Chunk}
    (h : 5 ≤ kind.level.rank → ∃ c, chunks = [c] ∧ ChunkOf kind c) :
    ∃ c, slot 7 kind.level.rank chunks = [c] ∧ Body c := by
  unfold slot
  split
  · exact ⟨_, rfl, body_item (by simp)⟩
  · obtain ⟨c, hchunks, hc⟩ := h (by omega)
    exact ⟨c, hchunks, hc.body (Level.eq_atom_of_rank (by omega))⟩

/-! ### Arguments -/

def closeLast : List Chunk → List Chunk
  | [] => []
  | [c] => [c ++ [.char ',']]
  | c :: d :: cs => c :: closeLast (d :: cs)

/-- The chunks of arguments, all but the last with a comma at their end. -/
def argumentRow : List (List Chunk) → List Chunk
  | [] => []
  | [a] => a
  | a :: b :: as => closeLast a ++ argumentRow (b :: as)

private theorem closeLast_eq {cs : List Chunk} (h : cs ≠ []) : ∃ init last, cs = init ++ [last] ∧
    closeLast cs = init ++ [last ++ [.char ',']] := by
  induction cs with
  | nil => exact absurd rfl h
  | cons c cs ih =>
      cases cs with
      | nil => exact ⟨[], c, rfl, rfl⟩
      | cons d cs =>
          obtain ⟨init, last, hcs, hclosed⟩ := ih (List.cons_ne_nil _ _)
          exact ⟨c :: init, last, by rw [hcs]; rfl, by rw [closeLast, hclosed]; rfl⟩

private theorem row_closeLast {cs : List Chunk} (h : cs ≠ []) : row (closeLast cs) = row cs ++ [.char ','] := by
  obtain ⟨init, last, hcs, hclosed⟩ := closeLast_eq h
  rw [hclosed, hcs]
  by_cases hinit : init = []
  · simp [hinit, row_singleton]
  · rw [row_append hinit (List.cons_ne_nil _ _), row_append hinit (List.cons_ne_nil _ _)]
    simp [row_singleton]

private theorem argumentRow_ne_nil {as : List (List Chunk)} (hne : as ≠ []) (h : ∀ a ∈ as, a ≠ []) :
    argumentRow as ≠ [] := by
  cases as with
  | nil => exact absurd rfl hne
  | cons a as =>
      have ha := h a List.mem_cons_self
      cases as with
      | nil => exact ha
      | cons b as =>
          obtain ⟨init, last, -, hclosed⟩ := closeLast_eq ha
          simp [argumentRow, hclosed]

theorem reads_arguments {texts : List String} {as : List (List Chunk)}
    (h : List.Forall₂ (fun text a => Reads false text.toList (row a)) texts as) (hne : ∀ a ∈ as, a ≠ []) :
    Reads false (", ".intercalate texts).toList (row (argumentRow as)) := by
  have hcomma : Reads false [',', ' '] [.char ',', .char ' '] := @Reads.chars false [',', ' '] (by decide)
  rw [String.toList_intercalate]
  induction h with
  | nil => exact Reads.nil
  | @cons text a texts as hfirst hrest ih =>
      have ha := hne a List.mem_cons_self
      have htail : ∀ a ∈ as, a ≠ [] := fun a ha => hne a (List.mem_cons_of_mem _ ha)
      cases hrest with
      | nil => simpa [argumentRow] using hfirst
      | @cons text' b texts' bs hsecond hrest =>
          have hclosed : closeLast a ≠ [] := by
            obtain ⟨init, last, -, hclosed⟩ := closeLast_eq ha
            simp [hclosed]
          rw [List.map_cons, List.map_cons, List.intercalate_cons_cons, argumentRow,
            row_append hclosed (argumentRow_ne_nil (List.cons_ne_nil _ _) htail), row_closeLast ha]
          have hreads := (hfirst.append hcomma).append (ih htail)
          simpa using hreads

private theorem mem_closeLast {cs : List Chunk} {c : Chunk} (h : c ∈ closeLast cs) :
    c ∈ cs ∨ ∃ d ∈ cs, c = d ++ [.char ','] := by
  by_cases hne : cs = []
  · rw [hne] at h
    cases h
  · obtain ⟨init, last, hcs, hclosed⟩ := closeLast_eq hne
    rw [hclosed, List.mem_append, List.mem_singleton] at h
    rcases h with h | rfl
    · exact .inl (hcs ▸ List.mem_append_left _ h)
    · exact .inr ⟨last, hcs ▸ List.mem_append_right _ List.mem_cons_self, rfl⟩

theorem argumentRow_isSeparate {as : List (List Chunk)} (h : ∀ a ∈ as, ∀ c ∈ a, IsChunk c) :
    ∀ c ∈ argumentRow as, IsSeparate c := by
  induction as with
  | nil => nofun
  | cons a as ih =>
      have ha := h a List.mem_cons_self
      cases as with
      | nil => exact fun c hc => (ha c hc).isSeparate
      | cons b as =>
          intro c hc
          rcases List.mem_append.1 hc with hc | hc
          · rcases mem_closeLast hc with hc | ⟨d, hd, rfl⟩
            · exact (ha c hc).isSeparate
            · exact ⟨by simp, by simpa using (ha d hd).noBlank⟩
          · exact ih (fun a ha => h a (List.mem_cons_of_mem _ ha)) c hc

theorem argumentRow_injective {as bs : List (List Chunk)} (has : ∀ a ∈ as, a ≠ [] ∧ ∀ c ∈ a, IsChunk c)
    (hbs : ∀ b ∈ bs, b ≠ [] ∧ ∀ c ∈ b, IsChunk c) (h : argumentRow as = argumentRow bs) : as = bs := by
  have hopen : ∀ {a : List Chunk}, (∀ c ∈ a, IsChunk c) → ∀ c ∈ a, ¬c.getLast? = some (.char ',') :=
    fun ha c hc => (ha c hc).noComma
  have hclosed : ∀ c : Chunk, (c ++ [TextItem.char ',']).getLast? = some (.char ',') := fun c => List.getLast?_concat
  have hlast : ∀ {a b : List Chunk} {rest : List Chunk}, (∀ c ∈ a, IsChunk c) → b ≠ [] → a ≠ closeLast b ++ rest := by
    rintro a b rest ha hb rfl
    obtain ⟨init, last, -, hclose⟩ := closeLast_eq hb
    exact hopen ha (last ++ [.char ',']) (by simp [hclose]) (hclosed last)
  induction as generalizing bs with
  | nil =>
      by_cases hnil : bs = []
      · rw [hnil]
      · exact absurd h.symm (argumentRow_ne_nil hnil fun b hb => (hbs b hb).1)
  | cons a as ih =>
      have ha := has a List.mem_cons_self
      have htail : ∀ a ∈ as, a ≠ [] ∧ ∀ c ∈ a, IsChunk c := fun a ha => has a (List.mem_cons_of_mem _ ha)
      cases bs with
      | nil => exact absurd h (argumentRow_ne_nil (List.cons_ne_nil _ _) fun a ha => (has a ha).1)
      | cons b bs =>
          have hb := hbs b List.mem_cons_self
          have htail' : ∀ b ∈ bs, b ≠ [] ∧ ∀ c ∈ b, IsChunk c := fun b hb => hbs b (List.mem_cons_of_mem _ hb)
          cases as with
          | nil =>
              cases bs with
              | nil => exact congrArg (fun a => [a]) h
              | cons b' bs => exact absurd h (hlast ha.2 hb.1)
          | cons a' as =>
              cases bs with
              | nil => exact absurd h.symm (hlast hb.2 ha.1)
              | cons b' bs =>
                  obtain ⟨init, last, rfl, hclose⟩ := closeLast_eq ha.1
                  obtain ⟨init', last', rfl, hclose'⟩ := closeLast_eq hb.1
                  rw [argumentRow, argumentRow, hclose, hclose', List.append_assoc, List.append_assoc] at h
                  obtain ⟨rfl, hlasts, hrest⟩ := append_cons_inj_of_first
                    (fun c hc => hopen ha.2 c (List.mem_append_left _ hc))
                    (fun c hc => hopen hb.2 c (List.mem_append_left _ hc)) (hclosed last) (hclosed last') h
                  rw [List.append_cancel_right hlasts, ih htail htail' hrest]

end CorpusSearch.QueryText
