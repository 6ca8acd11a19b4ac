import CorpusSearch.Text.Expression

/-!
The items of query text: characters, quoted texts and groups between brackets. One pass over the text finds them:
nothing within quotes is a bracket, and an angle bracket before a blank or an equals sign is a comparison. What a
text adds to the items does not depend on where it stands, so the items of a text are put together from the items of
its parts, and equal texts have equal items. Rows of chunks, which are items without blanks, are told apart by their
blanks. Main statements: a text has one reading, a row has one list of chunks.
-/

set_option autoImplicit false

namespace CorpusSearch.QueryText

/-! ### Lists taken apart -/

section

variable {α : Type} {P : α → Prop} {xs xs' ys ys' : List α} {a a' : α}

/-- The first element with a property has one place. -/
theorem append_cons_inj_of_first (hxs : ∀ x ∈ xs, ¬P x) (hxs' : ∀ x ∈ xs', ¬P x) (ha : P a) (ha' : P a')
    (h : xs ++ a :: ys = xs' ++ a' :: ys') : xs = xs' ∧ a = a' ∧ ys = ys' := by
  induction xs generalizing xs' with
  | nil =>
      cases xs' with
      | nil => exact ⟨rfl, List.cons.inj h⟩
      | cons x' xs' =>
          obtain ⟨rfl, -⟩ := List.cons.inj h
          exact absurd ha (hxs' _ List.mem_cons_self)
  | cons x xs ih =>
      cases xs' with
      | nil =>
          obtain ⟨rfl, -⟩ := List.cons.inj h
          exact absurd ha' (hxs _ List.mem_cons_self)
      | cons x' xs' =>
          obtain ⟨rfl, hrest⟩ := List.cons.inj h
          obtain ⟨rfl, rfl, rfl⟩ := ih (fun x hx => hxs x (List.mem_cons_of_mem _ hx))
            (fun x hx => hxs' x (List.mem_cons_of_mem _ hx)) hrest
          exact ⟨rfl, rfl, rfl⟩

/-- Where the elements with a property end at first has one place. -/
theorem append_inj_of_span (hxs : ∀ x ∈ xs, P x) (hxs' : ∀ x ∈ xs', P x) (hys : ∀ y, ys.head? = some y → ¬P y)
    (hys' : ∀ y, ys'.head? = some y → ¬P y) (h : xs ++ ys = xs' ++ ys') : xs = xs' ∧ ys = ys' := by
  induction xs generalizing xs' with
  | nil =>
      cases xs' with
      | nil => exact ⟨rfl, h⟩
      | cons x' xs' =>
          have hys := hys x' (by rw [List.nil_append] at h; rw [h]; rfl)
          exact absurd (hxs' _ List.mem_cons_self) hys
  | cons x xs ih =>
      cases xs' with
      | nil =>
          have hys' := hys' x (by rw [List.nil_append] at h; rw [← h]; rfl)
          exact absurd (hxs _ List.mem_cons_self) hys'
      | cons x' xs' =>
          obtain ⟨rfl, hrest⟩ := List.cons.inj h
          obtain ⟨rfl, rfl⟩ := ih (fun x hx => hxs x (List.mem_cons_of_mem _ hx))
            (fun x hx => hxs' x (List.mem_cons_of_mem _ hx)) hrest
          exact ⟨rfl, rfl⟩

theorem append_cons_inj_of_last (hys : ∀ y ∈ ys, ¬P y) (hys' : ∀ y ∈ ys', ¬P y) (ha : P a) (ha' : P a')
    (h : xs ++ a :: ys = xs' ++ a' :: ys') : xs = xs' ∧ a = a' ∧ ys = ys' := by
  have hreverse : ys.reverse ++ a :: xs.reverse = ys'.reverse ++ a' :: xs'.reverse := by
    simpa using congrArg List.reverse h
  obtain ⟨h₁, h₂, h₃⟩ := append_cons_inj_of_first (fun y hy => hys y (List.mem_reverse.1 hy))
    (fun y hy => hys' y (List.mem_reverse.1 hy)) ha ha' hreverse
  exact ⟨List.reverse_inj.1 h₃, h₂, List.reverse_inj.1 h₁⟩

theorem map_inj_of_mem {β : Type} {f : α → β} (hf : ∀ x ∈ xs, ∀ y ∈ ys, f x = f y → x = y)
    (h : xs.map f = ys.map f) : xs = ys := by
  induction xs generalizing ys with
  | nil => exact (List.map_eq_nil_iff.1 h.symm).symm
  | cons x xs ih =>
      cases ys with
      | nil => cases h
      | cons y ys =>
          obtain ⟨hhead, htail⟩ := List.cons.inj h
          rw [hf x List.mem_cons_self y List.mem_cons_self hhead,
            ih (fun x hx y hy => hf x (List.mem_cons_of_mem _ hx) y (List.mem_cons_of_mem _ hy)) htail]

/-- Lists joined by an element that none of them has. -/
theorem intercalate_inj {xss yss : List (List α)} (hxs : ∀ xs ∈ xss, a ∉ xs) (hys : ∀ ys ∈ yss, a ∉ ys)
    (hxne : xss ≠ []) (hyne : yss ≠ []) (h : [a].intercalate xss = [a].intercalate yss) : xss = yss := by
  classical
  rw [← List.splitOn_intercalate a hxs hxne, ← List.splitOn_intercalate a hys hyne, h]

theorem nil_intercalate (xss : List (List α)) : [].intercalate xss = xss.flatten := by
  induction xss with
  | nil => rfl
  | cons xs xss ih =>
      cases xss with
      | nil => simp
      | cons ys xss =>
          rw [List.intercalate_cons_cons, ih]
          simp

end

/-! ### Items -/

inductive Brackets where
  | round
  | square
  /-- Around the name and the attributes of a tag. -/
  | angle
  deriving DecidableEq

/-- A part of query text in which no separator counts. -/
inductive TextItem where
  | char (c : Char)
  | quoted (text : List Char)
  | group (brackets : Brackets) (content : List TextItem)

def chars (text : List Char) : List TextItem := text.map .char

theorem chars_injective {text text' : List Char} (h : chars text = chars text') : text = text' :=
  (List.map_inj_right fun _ _ hc => TextItem.char.inj hc).1 h

theorem chars_append (text text' : List Char) : chars (text ++ text') = chars text ++ chars text' := List.map_append

/-! ### The pass over a text -/

inductive ScanMode where
  | plain
  | quoted (text : List Char)
  | escaped (text : List Char)
  /-- Behind an angle bracket that may be a comparison. -/
  | less

structure Scan where
  /-- The open brackets, the innermost first, each with the items before it. -/
  outer : List (Brackets × List TextItem)
  /-- The items in the innermost open bracket. -/
  items : List TextItem
  mode : ScanMode

namespace Scan

def add (s : Scan) (item : TextItem) : Scan := { s with items := s.items ++ [item], mode := .plain }

def enter (s : Scan) (brackets : Brackets) : Scan := ⟨(brackets, s.items) :: s.outer, [], .plain⟩

def leave (s : Scan) : Scan :=
  match s.outer with
  | [] => s
  | (brackets, before) :: outer => ⟨outer, before ++ [.group brackets s.items], .plain⟩

def inTag (s : Scan) : Bool :=
  match s.outer with
  | (.angle, _) :: _ => true
  | _ => false

def readPlain (s : Scan) (c : Char) : Scan :=
  if c = '\'' then { s with mode := .quoted [] }
  else if c = '(' then s.enter .round
  else if c = '[' then s.enter .square
  else if c = '<' then { s with mode := .less }
  else if c = ')' || c = ']' || (c = '>' && s.inTag) then s.leave
  else s.add (.char c)

def read (s : Scan) (c : Char) : Scan :=
  match s.mode with
  | .plain => s.readPlain c
  | .quoted text =>
    if c = '\\' then { s with mode := .escaped text }
    else if c = '\'' then s.add (.quoted text)
    else { s with mode := .quoted (text ++ [c]) }
  | .escaped text => { s with mode := .quoted (text ++ [c]) }
  | .less => if c = ' ' || c = '=' then (s.add (.char '<')).readPlain c else (s.enter .angle).readPlain c

end Scan

/-- Whatever stands around it, in a tag or not, the text adds just the items. -/
def Reads (inTag : Bool) (text : List Char) (items : List TextItem) : Prop :=
  ∀ outer before, (Scan.mk outer before .plain).inTag = inTag →
    text.foldl Scan.read ⟨outer, before, .plain⟩ = ⟨outer, before ++ items, .plain⟩

/-- What holds of the characters of a text is decided by going through the text, not through all characters. -/
instance (priority := 2000) decidableForallMem (P : Char → Prop) [DecidablePred P] (text : List Char) :
    Decidable (∀ c ∈ text, P c) := List.decidableBAll P text

def IsOrdinary (c : Char) : Prop := c ∉ ['\'', '(', '[', '<', ')', ']', '>']

instance (c : Char) : Decidable (IsOrdinary c) := inferInstanceAs (Decidable (c ∉ _))

namespace Reads

variable {inTag : Bool} {text text' : List Char} {items items' : List TextItem}

private theorem exists_outer (inTag : Bool) : ∃ outer, (Scan.mk outer [] .plain).inTag = inTag := by
  cases inTag with
  | true => exact ⟨[(.angle, [])], rfl⟩
  | false => exact ⟨[], rfl⟩

theorem unique (h : Reads inTag text items) (h' : Reads inTag text items') : items = items' := by
  obtain ⟨outer, houter⟩ := exists_outer inTag
  have heq := (h outer [] houter).symm.trans (h' outer [] houter)
  simpa using (Scan.mk.inj heq).2.1

theorem nil : Reads inTag [] [] := by
  intro outer before _
  rw [List.foldl_nil, List.append_nil]

theorem append (h : Reads inTag text items) (h' : Reads inTag text' items') :
    Reads inTag (text ++ text') (items ++ items') := by
  intro outer before houter
  have houter' : (Scan.mk outer (before ++ items) .plain).inTag = inTag := houter
  rw [List.foldl_append, h outer before houter, h' outer _ houter', List.append_assoc]

theorem ordinary {c : Char} (hc : IsOrdinary c) : Reads inTag [c] [.char c] := by
  intro outer before _
  simp only [IsOrdinary, List.mem_cons, List.not_mem_nil, or_false, not_or] at hc
  simp [Scan.read, Scan.readPlain, Scan.add, hc]

theorem chars (h : ∀ c ∈ text, IsOrdinary c) : Reads inTag text (chars text) := by
  induction text with
  | nil => exact nil
  | cons c text ih =>
      exact (ordinary (h c List.mem_cons_self)).append (ih fun c hc => h c (List.mem_cons_of_mem _ hc))

theorem greater : Reads false ['>'] [.char '>'] := by
  intro outer before houter
  have houter' : (Scan.mk outer before .plain).inTag = false := houter
  simp [Scan.read, Scan.readPlain, Scan.add, houter']

/-- An angle bracket that is a comparison. -/
theorem less {c : Char} (hc : c = ' ' ∨ c = '=') : Reads inTag ['<', c] [.char '<', .char c] := by
  intro outer before _
  rcases hc with rfl | rfl <;> simp [Scan.read, Scan.readPlain, Scan.add]

private theorem quotedBody (outer : List (Brackets × List TextItem)) (before : List TextItem) (done text : List Char) :
    (text.flatMap fun c => if c = '\\' || c = '\'' then ['\\', c] else [c]).foldl Scan.read
      ⟨outer, before, .quoted done⟩ = ⟨outer, before, .quoted (done ++ text)⟩ := by
  induction text generalizing done with
  | nil => simp
  | cons c text ih =>
      rw [List.flatMap_cons, List.foldl_append]
      have hc : (if c = '\\' || c = '\'' then ['\\', c] else [c]).foldl Scan.read ⟨outer, before, .quoted done⟩ =
          ⟨outer, before, .quoted (done ++ [c])⟩ := by
        split
        · rfl
        · rename_i hplain
          simp only [Bool.or_eq_true, decide_eq_true_eq, not_or] at hplain
          simp [Scan.read, hplain]
      rw [hc, ih, List.append_assoc, List.singleton_append]

theorem quoted (text : String) : Reads inTag (Text.quote text).toList [.quoted text.toList] := by
  intro outer before _
  rw [Text.quote, String.toList_ofList, List.cons_append, List.foldl_cons, List.foldl_append]
  have hopen : Scan.read ⟨outer, before, .plain⟩ '\'' = ⟨outer, before, .quoted []⟩ := rfl
  rw [hopen, quotedBody]
  rfl

theorem round (h : Reads false text items) : Reads inTag ('(' :: text ++ [')']) [.group .round items] := by
  intro outer before _
  rw [List.cons_append, List.foldl_cons, List.foldl_append]
  have hopen : Scan.read ⟨outer, before, .plain⟩ '(' = ⟨(.round, before) :: outer, [], .plain⟩ := rfl
  rw [hopen, h _ _ rfl]
  rfl

theorem square (h : Reads false text items) : Reads inTag ('[' :: text ++ [']']) [.group .square items] := by
  intro outer before _
  rw [List.cons_append, List.foldl_cons, List.foldl_append]
  have hopen : Scan.read ⟨outer, before, .plain⟩ '[' = ⟨(.square, before) :: outer, [], .plain⟩ := rfl
  rw [hopen, h _ _ rfl]
  rfl

/-- A tag; its first character shows that it is no comparison. -/
theorem angle {c : Char} (hspace : c ≠ ' ') (hequals : c ≠ '=') (h : Reads true (c :: text) items) :
    Reads inTag ('<' :: (c :: text) ++ ['>']) [.group .angle items] := by
  intro outer before _
  have hopen : Scan.read (Scan.read ⟨outer, before, .plain⟩ '<') c =
      Scan.read ⟨(.angle, before) :: outer, [], .plain⟩ c := by
    change Scan.read ⟨outer, before, .less⟩ c = Scan.readPlain _ c
    simp [Scan.read, hspace, hequals, Scan.enter]
  have hcontent : (c :: text).foldl Scan.read (Scan.read ⟨outer, before, .plain⟩ '<') =
      ⟨(.angle, before) :: outer, items, .plain⟩ := by
    rw [List.foldl_cons, hopen, ← List.foldl_cons]
    exact h _ _ rfl
  rw [List.cons_append, List.foldl_cons, List.foldl_append, hcontent]
  rfl

end Reads

/-! ### Rows of chunks -/

abbrev Chunk := List TextItem

structure IsChunk (chunk : Chunk) : Prop where
  ne_nil : chunk ≠ []
  noBlank : .char ' ' ∉ chunk
  /-- A comma at the end is left to what separates arguments. -/
  noComma : chunk.getLast? ≠ some (.char ',')

namespace IsChunk

theorem item {item : TextItem} (h : ∀ c, item ≠ .char c) : IsChunk [item] :=
  ⟨List.cons_ne_nil _ _, by simpa [eq_comm] using h ' ', by simpa using h ','⟩

theorem chars {text : List Char} (hne : text ≠ []) (hblank : ' ' ∉ text) (hcomma : text.getLast? ≠ some ',') :
    IsChunk (chars text) where
  ne_nil := by simpa [QueryText.chars] using hne
  noBlank := by simpa [QueryText.chars] using hblank
  noComma h := by
    rw [QueryText.chars, List.getLast?_map] at h
    obtain ⟨c, hc, heq⟩ := Option.map_eq_some_iff.1 h
    exact hcomma (TextItem.char.inj heq ▸ hc)

/-- What stands before a chunk without a blank makes it a longer chunk. -/
theorem append_left {chunk : Chunk} (h : IsChunk chunk) {front : List TextItem} (hblank : .char ' ' ∉ front) :
    IsChunk (front ++ chunk) where
  ne_nil := by simp [h.ne_nil]
  noBlank := by simpa using And.intro hblank h.noBlank
  noComma := by
    have hcomma := h.noComma
    rw [List.getLast?_append]
    cases hlast : chunk.getLast? with
    | none => exact absurd (List.getLast?_eq_none_iff.1 hlast) h.ne_nil
    | some item => rwa [hlast] at hcomma

theorem cons {chunk : Chunk} (h : IsChunk chunk) {item : TextItem} (hblank : item ≠ .char ' ') :
    IsChunk (item :: chunk) :=
  @append_left chunk h [item] (by simpa [eq_comm] using hblank)

end IsChunk

def row (chunks : List Chunk) : List TextItem := [TextItem.char ' '].intercalate chunks

def IsSeparate (chunk : Chunk) : Prop := chunk ≠ [] ∧ .char ' ' ∉ chunk

theorem IsChunk.isSeparate {chunk : Chunk} (h : IsChunk chunk) : IsSeparate chunk := ⟨h.ne_nil, h.noBlank⟩

theorem row_eq_nil {chunks : List Chunk} (h : ∀ c ∈ chunks, IsSeparate c) : row chunks = [] ↔ chunks = [] := by
  cases chunks with
  | nil => simp [row]
  | cons c chunks =>
      have hc := (h c List.mem_cons_self).1
      cases chunks <;> simp [row, List.intercalate_cons_cons, hc]

theorem row_injective {chunks chunks' : List Chunk} (h : ∀ c ∈ chunks, IsSeparate c)
    (h' : ∀ c ∈ chunks', IsSeparate c) (heq : row chunks = row chunks') : chunks = chunks' := by
  by_cases hnil : chunks = []
  · rw [hnil, row, List.intercalate_nil] at heq
    rw [hnil, (row_eq_nil h').1 heq.symm]
  · have hnil' : chunks' ≠ [] := fun hnil' => hnil ((row_eq_nil h).1 (heq.trans ((row_eq_nil h').2 hnil')))
    exact intercalate_inj (fun c hc => (h c hc).2) (fun c hc => (h' c hc).2) hnil hnil' heq

theorem row_singleton (c : Chunk) : row [c] = c := List.intercalate_singleton

theorem row_append {chunks chunks' : List Chunk} (h : chunks ≠ []) (h' : chunks' ≠ []) :
    row (chunks ++ chunks') = row chunks ++ .char ' ' :: row chunks' := by
  induction chunks with
  | nil => exact absurd rfl h
  | cons c chunks ih =>
      cases chunks with
      | nil =>
          rw [List.singleton_append, row, List.intercalate_cons_of_ne_nil h', row_singleton, row]
          simp
      | cons d chunks =>
          rw [List.cons_append, row, List.intercalate_cons_of_ne_nil (by simp), row, List.intercalate_cons_cons]
          rw [row, row] at ih
          rw [ih (by simp)]
          simp

end CorpusSearch.QueryText
