import CorpusSearch.Json.Reader
import CorpusSearch.Json.Writer
import CorpusSearch.Proofs.NameMaps

/-!
JSON text read back. What a value is read from ends where its text ends, whatever stands behind it in the text of a
larger value. Main statement: the text of a value without floating-point numbers is read back if the value is nested
no deeper than the text may be, and is refused otherwise.
-/

set_option autoImplicit false

namespace CorpusSearch.Json

/-- Integers of 64 bits, no floating-point numbers, and the fields of objects in order. -/
inductive Plain : Json → Prop
  | null : Plain .null
  | bool (b : Bool) : Plain (.bool b)
  | int {n : Int} (low : -9223372036854775808 ≤ n) (high : n ≤ 18446744073709551615) : Plain (.int n)
  | str (s : String) : Plain (.str s)
  | arr {items : List Json} (h : ∀ v ∈ items, Plain v) : Plain (.arr items)
  | obj {fields : List (String × Json)} (ordered : Entries.Ordered fields) (h : ∀ f ∈ fields, Plain f.2) :
      Plain (.obj fields)

/-- What may stand behind a value: the end of the text, or how the text of a larger value goes on. -/
def Continues (rest : List Char) : Prop := ∀ c ∈ rest.head?, c ∈ [',', ']', '\x7d']

private theorem continues_nil : Continues [] := nofun

private theorem continues_cons {c : Char} {rest : List Char} (h : c ∈ [',', ']', '\x7d']) : Continues (c :: rest) := by
  rintro d ⟨⟩
  exact h

variable {text rest : List Char} {fuel limit : Nat}

/-! ### Numbers -/

private theorem isDigit_of_mem_natChars {n : Nat} {c : Char} (h : c ∈ natChars n) : c.isDigit = true :=
  Nat.isDigit_of_mem_toDigits (by decide) (by decide) h

private theorem natChars_eq_cons {n : Nat} (h : 0 < n) : ∃ c digits, natChars n = c :: digits ∧ c ≠ '0' := by
  induction n using Nat.strong_induction_on with
  | h n ih =>
      by_cases hn : n < 10
      · refine ⟨n.digitChar, [], Nat.toDigits_of_lt_base hn, ?_⟩
        rw [Ne, Nat.digitChar_eq_zero]
        omega
      · obtain ⟨c, digits, hdigits, hc⟩ := ih (n / 10) (by omega) (by omega)
        refine ⟨c, digits ++ [(n % 10).digitChar], ?_, hc⟩
        rw [natChars, Nat.toDigits_of_base_le (by decide) (by omega)]
        exact congrArg (· ++ [(n % 10).digitChar]) hdigits

private theorem Continues.not_isDigit (h : Continues rest) : ∀ c ∈ rest.head?, c.isDigit = false := by
  intro c hc
  have hall : ∀ c ∈ [',', ']', '\x7d'], c.isDigit = false := by simp [Char.isDigit]
  exact hall c (h c hc)

private theorem Continues.takeWhile_isDigit (h : Continues rest) : rest.takeWhile Char.isDigit = [] := by
  cases rest with
  | nil => rfl
  | cons c rest => rw [List.takeWhile_cons, h.not_isDigit c rfl, if_neg Bool.false_ne_true]

private theorem Continues.dropWhile_isDigit (h : Continues rest) : rest.dropWhile Char.isDigit = rest := by
  cases rest with
  | nil => rfl
  | cons c rest => rw [List.dropWhile_cons, h.not_isDigit c rfl, if_neg Bool.false_ne_true]

private theorem le_ofDigitChars (digits : List Char) (significand : Nat) :
    significand ≤ Nat.ofDigitChars 10 digits significand := by
  induction digits generalizing significand with
  | nil => exact Nat.le_refl _
  | cons c digits ih =>
      rw [Nat.ofDigitChars_cons]
      exact Nat.le_trans (by omega) (ih _)

private theorem takeDigits_append {digits : List Char} {significand taken : Nat}
    (hdigits : ∀ c ∈ digits, c.isDigit = true)
    (hrest : Continues rest) (h : Nat.ofDigitChars 10 digits significand ≤ largestWord) :
    takeDigits significand taken (digits ++ rest) =
      (Nat.ofDigitChars 10 digits significand, taken + digits.length, rest) := by
  induction digits generalizing significand taken with
  | nil =>
      cases rest with
      | nil => rfl
      | cons c rest =>
          rw [List.nil_append, takeDigits, hrest.not_isDigit c rfl, if_neg Bool.false_ne_true]
          rfl
  | cons c digits ih =>
      obtain ⟨hc, hdigits⟩ := List.forall_mem_cons.1 hdigits
      have hnext : Nat.ofDigitChars 10 (c :: digits) significand =
          Nat.ofDigitChars 10 digits (significand * 10 + (c.toNat - 48)) := by
        rw [Nat.ofDigitChars_cons, Nat.mul_comm]
        rfl
      rw [hnext] at h ⊢
      have hfits : ¬largestWord < significand * 10 + (c.toNat - 48) :=
        Nat.not_lt.2 (Nat.le_trans (le_ofDigitChars digits _) h)
      rw [List.cons_append, takeDigits, if_pos hc, if_neg hfits, ih hdigits h, List.length_cons,
        Nat.add_assoc, Nat.add_comm 1]

private theorem takeDigits_natChars {n : Nat} (h : n ≤ largestWord) (hrest : Continues rest) :
    takeDigits 0 0 (natChars n ++ rest) = (n, (natChars n).length, rest) := by
  have hvalue : Nat.ofDigitChars 10 (natChars n) 0 = n := Nat.ofDigitChars_ten_toDigits
  rw [takeDigits_append (fun c => isDigit_of_mem_natChars) hrest (hvalue.symm ▸ h), hvalue, Nat.zero_add]

private theorem readMagnitude_natChars {negative : Bool} {n : Nat} (h : n ≤ largestWord) (hrest : Continues rest)
    (hnegative : negative = true → 0 < n ∧ n ≤ 9223372036854775808) :
    readMagnitude negative (natChars n ++ rest) = some (.int (if negative then -n else n), rest) := by
  rcases Nat.eq_zero_or_pos n with rfl | hn
  · have hpositive : negative = false := Bool.eq_false_iff.2 fun e => Nat.lt_irrefl 0 (hnegative e).1
    have hhead : ¬rest.head?.any Char.isDigit = true := by
      cases rest with
      | nil => exact Bool.false_ne_true
      | cons c rest => exact Bool.eq_false_iff.1 (hrest.not_isDigit c rfl)
    rw [show natChars 0 = ['0'] from rfl, List.singleton_append, readMagnitude]
    dsimp only
    rw [if_neg hhead, Option.bind_eq_bind, Option.bind_some]
    dsimp only
    rw [hrest.takeWhile_isDigit, hrest.dropWhile_isDigit]
    split
    · exact absurd (hrest '.' rfl) (by decide)
    · exact absurd (hrest 'e' rfl) (by decide)
    · exact absurd (hrest 'E' rfl) (by decide)
    · rw [hpositive]
      rfl
  · have hdigits := takeDigits_natChars h hrest
    obtain ⟨c, digits, hcons, hc⟩ := natChars_eq_cons hn
    have hdigit : c.isDigit = true := isDigit_of_mem_natChars (hcons ▸ List.mem_cons_self)
    rw [hcons, List.cons_append] at hdigits ⊢
    rw [readMagnitude]
    · dsimp only
      rw [if_pos hdigit, hdigits, Option.bind_eq_bind, Option.bind_some]
      dsimp only
      rw [hrest.takeWhile_isDigit, hrest.dropWhile_isDigit]
      split
      · exact absurd (hrest '.' rfl) (by decide)
      · exact absurd (hrest 'e' rfl) (by decide)
      · exact absurd (hrest 'E' rfl) (by decide)
      · cases negative with
        | false => rfl
        | true =>
            obtain ⟨-, hmax⟩ := hnegative rfl
            simp [Nat.ne_of_gt hn, Nat.not_lt.2 hmax]
    · exact hc

private theorem intChars_eq_cons (n : Int) :
    ∃ c text, intChars n = c :: text ∧ (c = '-' ∧ n < 0 ∨ c.isDigit = true ∧ 0 ≤ n) := by
  rw [intChars]
  split
  · rename_i hn
    exact ⟨_, _, rfl, .inl ⟨rfl, hn⟩⟩
  · rename_i hn
    obtain ⟨c, digits, hcons⟩ := List.exists_cons_of_length_pos (Nat.length_toDigits_pos (b := 10) (n := n.natAbs))
    have hcons : natChars n.natAbs = c :: digits := hcons
    exact ⟨c, digits, hcons, .inr ⟨isDigit_of_mem_natChars (hcons ▸ List.mem_cons_self), by omega⟩⟩

private theorem readNumber_intChars {n : Int} (hrest : Continues rest) (low : -9223372036854775808 ≤ n)
    (high : n ≤ 18446744073709551615) : readNumber (intChars n ++ rest) = some (.int n, rest) := by
  have hmax : n.natAbs ≤ largestWord := by
    rw [largestWord]
    omega
  by_cases hn : n < 0
  · rw [intChars, if_pos hn, List.cons_append]
    show readMagnitude true _ = _
    rw [readMagnitude_natChars hmax hrest fun _ => by omega, if_pos rfl, show -(n.natAbs : Int) = n by omega]
  · obtain ⟨c, text, hcons, ⟨-, hc⟩ | ⟨hc, -⟩⟩ := intChars_eq_cons n
    · exact absurd hc hn
    · rw [readNumber]
      · rw [intChars, if_neg hn, readMagnitude_natChars hmax hrest fun e => absurd e Bool.false_ne_true,
          if_neg Bool.false_ne_true, show (n.natAbs : Int) = n by omega]
      · rw [hcons]
        rintro text ⟨⟩
        exact absurd hc (by decide)

/-! ### Strings -/

private theorem escapeChar_ne_nil (c : Char) : escapeChar c ≠ [] := by
  unfold escapeChar
  split_ifs <;> exact List.cons_ne_nil _ _

private theorem readUnicodeEscape_control {c : Char} (h : c.toNat < 0x20) :
    readUnicodeEscape ('0' :: '0' :: hexDigit (c.toNat / 16) :: hexDigit (c.toNat % 16) :: text) = some (c, text) := by
  have hall : ∀ n < 0x20, Text.hexValue? ['0', '0', hexDigit (n / 16), hexDigit (n % 16)] = some n := by decide
  have hchar : Text.charOfCodePoint? c.toNat = some c := by
    rw [Text.charOfCodePoint?, if_pos (by rw [Bool.or_eq_true]; exact .inl (decide_eq_true (by omega))),
      Char.ofNat_toNat]
  have hplane : ¬(decide (0xD800 ≤ c.toNat) && decide (c.toNat < 0xDC00)) = true := by
    rw [Bool.and_eq_true]
    rintro ⟨hlow, -⟩
    exact absurd (of_decide_eq_true hlow) (by omega)
  rw [readUnicodeEscape, readFourHex, hall _ h]
  dsimp only [Option.bind_eq_bind, Option.bind_some, Option.pure_def]
  rw [if_neg hplane, hchar]
  rfl

private theorem readStringRest_escapeChar (c : Char) (done : List Char) :
    readStringRest (fuel + 1) done (escapeChar c ++ text) = readStringRest fuel (c :: done) text := by
  unfold escapeChar
  split_ifs with hquote hslash hline hreturn htab hback hfeed hcontrol
  iterate 7 · subst c; rfl
  · show (readUnicodeEscape ('0' :: '0' :: _ :: _ :: text)).bind _ = _
    rw [readUnicodeEscape_control hcontrol, Option.bind_some]
  · rw [List.singleton_append, readStringRest, if_neg hcontrol]
    · exact hquote
    · exact fun _ hc _ => hslash hc
    · exact fun _ _ hc _ => hslash hc
    · exact fun hc _ => hslash hc

private theorem readStringRest_flatMap (cs : List Char) {done : List Char} (h : cs.length < fuel) :
    readStringRest fuel done (cs.flatMap escapeChar ++ '"' :: rest) =
      some (String.ofList (done.reverse ++ cs), rest) := by
  induction cs generalizing fuel done with
  | nil =>
      obtain ⟨fuel, rfl⟩ := Nat.exists_eq_succ_of_ne_zero (Nat.ne_of_gt h)
      rw [List.flatMap_nil, List.nil_append, readStringRest, List.append_nil]
  | cons c cs ih =>
      obtain ⟨fuel, rfl⟩ := Nat.exists_eq_succ_of_ne_zero (Nat.ne_of_gt (Nat.zero_lt_of_lt h))
      rw [List.flatMap_cons, List.append_assoc, readStringRest_escapeChar, ih (Nat.lt_of_succ_lt_succ h),
        List.reverse_cons, List.append_assoc, List.singleton_append]

private theorem length_le_flatMap_escapeChar (cs : List Char) : cs.length ≤ (cs.flatMap escapeChar).length := by
  induction cs with
  | nil => exact Nat.le_refl _
  | cons c cs ih =>
      have hpos := List.length_pos_iff.2 (escapeChar_ne_nil c)
      rw [List.flatMap_cons, List.length_append, List.length_cons]
      omega

private theorem writeString_append (s : String) (rest : List Char) :
    writeString s ++ rest = '"' :: (s.toList.flatMap escapeChar ++ '"' :: rest) := by
  rw [writeString, List.append_assoc, List.cons_append, List.singleton_append]

private theorem readStringRest_content (s : String) (rest : List Char) :
    readStringRest ((s.toList.flatMap escapeChar ++ '"' :: rest).length + 1) []
      (s.toList.flatMap escapeChar ++ '"' :: rest) = some (s, rest) := by
  have hlength := length_le_flatMap_escapeChar s.toList
  rw [readStringRest_flatMap s.toList (by rw [List.length_append]; omega), List.reverse_nil, List.nil_append,
    String.ofList_toList]

/-! ### Values -/

private theorem skipBlank_cons {c : Char} (h : isBlank c = false) : skipBlank (c :: text) = c :: text :=
  List.dropWhile_cons_of_neg (Bool.eq_false_iff.1 h)

theorem Continues.skipBlank (h : Continues rest) : skipBlank rest = rest := by
  cases rest with
  | nil => rfl
  | cons c rest =>
      have hall : ∀ c ∈ [',', ']', '\x7d'], isBlank c = false := by simp [isBlank]
      exact skipBlank_cons (hall c (h c rfl))

def others : List Char := [' ', '\n', '\t', '\r', 'n', 't', 'f', '"', '[', ']', '\x7b']

private theorem ne_of_numeral {c d : Char} (h : c = '-' ∨ c.isDigit = true) (hd : d ∈ others) : c ≠ d := by
  have hall : ∀ d ∈ others, ¬(d = '-' ∨ d.isDigit = true) := by simp [others, Char.isDigit]
  rintro rfl
  exact hall c hd h

private theorem not_isBlank_of_numeral {c : Char} (h : c = '-' ∨ c.isDigit = true) : isBlank c = false := by
  simp only [isBlank, Bool.or_eq_false_iff, decide_eq_false_iff_not]
  refine ⟨⟨⟨?_, ?_⟩, ?_⟩, ?_⟩ <;> exact ne_of_numeral h (by decide)

private theorem writeChars_eq_cons {v : Json} (h : v.Plain) :
    ∃ c text, v.writeChars = c :: text ∧ isBlank c = false ∧ c ≠ ']' := by
  cases h with
  | null => exact ⟨_, _, rfl, by decide, by decide⟩
  | bool b => cases b <;> exact ⟨_, _, rfl, by decide, by decide⟩
  | int _ _ =>
      obtain ⟨c, text, hcons, h⟩ := intChars_eq_cons _
      have hc := h.imp And.left And.left
      exact ⟨c, text, hcons, not_isBlank_of_numeral hc, ne_of_numeral hc (by decide)⟩
  | str s => exact ⟨_, _, rfl, by decide, by decide⟩
  | @arr items _ => cases items <;> exact ⟨_, _, rfl, by decide, by decide⟩
  | @obj fields _ _ => cases fields <;> exact ⟨_, _, rfl, by decide, by decide⟩

private theorem continues_writeItems (items : List Json) (rest : List Char) : Continues (writeItems items ++ rest) := by
  cases items <;> exact continues_cons (by decide)

private theorem continues_writeFields (fields : List (String × Json)) (rest : List Char) :
    Continues (writeFields fields ++ rest) := by
  rcases fields with _ | ⟨⟨name, v⟩, fields⟩ <;> exact continues_cons (by decide)

/-- A value is read from its text, if it may be nested so deep, up to where its text ends. -/
def ReadsBack (v : Json) : Prop :=
  ∀ fuel limit rest, v.writeChars.length ≤ fuel → Continues rest →
    readValue fuel limit (v.writeChars ++ rest) = if v.depth ≤ limit then some (v, rest) else none

private theorem readItems_writeItems {v : Json} {done items : List Json} (hv : v.ReadsBack)
    (hfuel : v.writeChars.length ≤ fuel) :
    readItems (fuel + 1) limit done (v.writeChars ++ (writeItems items ++ rest)) =
      if v.depth ≤ limit then
        match items with
        | [] => some (.arr (done.reverse ++ [v]), rest)
        | w :: items => readItems fuel limit (v :: done) (w.writeChars ++ (writeItems items ++ rest))
      else none := by
  rw [readItems, hv fuel limit _ hfuel (continues_writeItems items rest)]
  split
  · rw [Option.bind_eq_bind, Option.bind_some]
    dsimp only
    rw [(continues_writeItems items rest).skipBlank]
    cases items with
    | nil =>
        rw [← List.reverse_cons]
        rfl
    | cons w items =>
        rw [writeItems, List.append_assoc]
        rfl
  · rfl

private theorem readItems_written {v : Json} {items done : List Json} (h : ∀ w ∈ v :: items, w.ReadsBack)
    (hfuel : v.writeChars.length + (writeItems items).length ≤ fuel) :
    readItems fuel limit done (v.writeChars ++ (writeItems items ++ rest)) =
      if itemsDepth (v :: items) ≤ limit then some (.arr (done.reverse ++ v :: items), rest) else none := by
  induction items generalizing v fuel done with
  | nil =>
      obtain ⟨fuel, rfl⟩ : ∃ n, fuel = n + 1 := ⟨fuel - 1, by simp [writeItems] at hfuel; omega⟩
      rw [readItems_writeItems (h v List.mem_cons_self) (by simpa [writeItems] using hfuel), itemsDepth, itemsDepth,
        Nat.max_zero]
  | cons w items ih =>
      obtain ⟨fuel, rfl⟩ : ∃ n, fuel = n + 1 := ⟨fuel - 1, by simp [writeItems] at hfuel; omega⟩
      simp only [writeItems, List.length_append, List.length_cons] at hfuel
      rw [readItems_writeItems (h v List.mem_cons_self) (by omega)]
      dsimp only
      rw [ih (fun u hu => h u (List.mem_cons_of_mem _ hu)) (by omega)]
      simp only [itemsDepth, Nat.max_le, ite_and, List.reverse_cons, List.append_assoc, List.singleton_append]

private theorem readFields_writeFields {name : String} {v : Json} {done fields : List (String × Json)}
    (hv : v.ReadsBack) (hlast : ∀ e ∈ done, e.1 < name) (hfuel : v.writeChars.length ≤ fuel) :
    readFields (fuel + 1) limit done (writeString name ++ ':' :: (v.writeChars ++ (writeFields fields ++ rest))) =
      if v.depth ≤ limit then
        match fields with
        | [] => some (.obj (done ++ [(name, v)]), rest)
        | (other, w) :: fields =>
          readFields fuel limit (done ++ [(name, v)])
            (writeString other ++ ':' :: (w.writeChars ++ (writeFields fields ++ rest)))
      else none := by
  rw [writeString_append, readFields, skipBlank_cons (by decide)]
  show (readStringRest _ [] _).bind _ = _
  rw [readStringRest_content, Option.bind_some]
  dsimp only
  rw [skipBlank_cons (by decide)]
  show (readValue _ _ _).bind _ = _
  rw [hv fuel limit _ hfuel (continues_writeFields fields rest)]
  split
  · rw [Option.bind_some]
    dsimp only
    rw [(continues_writeFields fields rest).skipBlank, Entries.insert_last hlast]
    rcases fields with _ | ⟨⟨other, w⟩, fields⟩
    · rfl
    · simp only [writeFields, List.cons_append, List.append_assoc]
  · rfl

private theorem readFields_written {name : String} {v : Json} {fields done : List (String × Json)}
    (h : ∀ f ∈ (name, v) :: fields, f.2.ReadsBack) (hordered : Entries.Ordered (done ++ (name, v) :: fields))
    (hfuel : v.writeChars.length + (writeFields fields).length ≤ fuel) :
    readFields fuel limit done (writeString name ++ ':' :: (v.writeChars ++ (writeFields fields ++ rest))) =
      if fieldsDepth ((name, v) :: fields) ≤ limit then some (.obj (done ++ (name, v) :: fields), rest)
      else none := by
  have hlast : ∀ e ∈ done, e.1 < name :=
    fun e he => (List.pairwise_append.1 hordered).2.2 e he (name, v) List.mem_cons_self
  induction fields generalizing name v fuel done with
  | nil =>
      obtain ⟨fuel, rfl⟩ : ∃ n, fuel = n + 1 := ⟨fuel - 1, by simp [writeFields] at hfuel; omega⟩
      rw [readFields_writeFields (h _ List.mem_cons_self) hlast (by simpa [writeFields] using hfuel), fieldsDepth,
        fieldsDepth, Nat.max_zero]
  | cons f fields ih =>
      obtain ⟨other, w⟩ := f
      obtain ⟨fuel, rfl⟩ : ∃ n, fuel = n + 1 := ⟨fuel - 1, by simp [writeFields] at hfuel; omega⟩
      simp only [writeFields, List.length_append, List.length_cons] at hfuel
      have hnext : Entries.Ordered ((done ++ [(name, v)]) ++ (other, w) :: fields) := by simpa using hordered
      have hv : v.writeChars.length ≤ fuel := by omega
      rw [readFields_writeFields (h _ List.mem_cons_self) hlast hv]
      dsimp only
      rw [ih (fun g hg => h g (List.mem_cons_of_mem _ hg)) hnext (by omega)
        fun e he => (List.pairwise_append.1 hnext).2.2 e he (other, w) List.mem_cons_self]
      simp only [fieldsDepth, Nat.max_le, ite_and, List.append_assoc, List.singleton_append]

private theorem exists_succ_of_writeChars {v : Json} (h : v.Plain) (hfuel : v.writeChars.length ≤ fuel) :
    ∃ n, fuel = n + 1 := by
  obtain ⟨c, text, hcons, -⟩ := writeChars_eq_cons h
  rw [hcons, List.length_cons] at hfuel
  exact Nat.exists_eq_succ_of_ne_zero (Nat.ne_of_gt (Nat.lt_of_lt_of_le (Nat.succ_pos _) hfuel))

private theorem readValue_bracket {c : Char} (hskip : skipBlank text = c :: rest) (hc : c ≠ ']') :
    readValue (fuel + 1) (limit + 1) ('[' :: text) = readItems fuel limit [] text := by
  rw [readValue, skipBlank_cons (by decide)]
  simp only [hskip]
  split
  · rename_i heq
    exact absurd (List.cons.inj heq).1 hc
  · rfl

private theorem readValue_brace {c : Char} (hskip : skipBlank text = c :: rest) (hc : c ≠ '\x7d') :
    readValue (fuel + 1) (limit + 1) ('\x7b' :: text) = readFields fuel limit [] text := by
  rw [readValue, skipBlank_cons (by decide)]
  simp only [hskip]
  split
  · rename_i heq
    exact absurd (List.cons.inj heq).1 hc
  · rfl

private theorem readsBack_arr {items : List Json} (hplain : (arr items).Plain) (h : ∀ v ∈ items, v.ReadsBack) :
    (arr items).ReadsBack := by
  intro fuel limit rest hfuel hrest
  obtain ⟨fuel, rfl⟩ := exists_succ_of_writeChars hplain hfuel
  cases items with
  | nil =>
      rw [writeChars, List.cons_append, readValue, skipBlank_cons (by decide)]
      cases limit <;> rfl
  | cons v items =>
      simp only [writeChars, List.length_append, List.length_cons] at hfuel
      rw [writeChars, List.append_assoc, List.cons_append, depth]
      cases limit with
      | zero =>
          rw [readValue, skipBlank_cons (by decide)]
          rfl
      | succ limit =>
          have hv : v.Plain := by
            cases hplain with
            | arr hitems => exact hitems v List.mem_cons_self
          obtain ⟨c, text, hcons, hblank, hc⟩ := writeChars_eq_cons hv
          rw [readValue_bracket (by rw [hcons, List.cons_append, skipBlank_cons hblank]) hc,
            readItems_written h (by omega)]
          simp only [Nat.add_le_add_iff_right]
          rfl

private theorem readsBack_obj {fields : List (String × Json)} (hplain : (obj fields).Plain)
    (h : ∀ f ∈ fields, f.2.ReadsBack) : (obj fields).ReadsBack := by
  intro fuel limit rest hfuel hrest
  obtain ⟨fuel, rfl⟩ := exists_succ_of_writeChars hplain hfuel
  rcases fields with _ | ⟨⟨name, v⟩, fields⟩
  · rw [writeChars, List.cons_append, readValue, skipBlank_cons (by decide)]
    cases limit <;> rfl
  · simp only [writeChars, List.length_append, List.length_cons] at hfuel
    simp only [writeChars, List.cons_append, List.append_assoc]
    rw [depth]
    cases limit with
    | zero =>
        rw [readValue, skipBlank_cons (by decide)]
        rfl
    | succ limit =>
        have hordered : Entries.Ordered ([] ++ (name, v) :: fields) := by
          cases hplain with
          | obj ordered _ => exact ordered
        rw [readValue_brace (by rw [writeString_append, skipBlank_cons (by decide)]) (by decide : '"' ≠ '\x7d'),
          readFields_written h hordered (by omega)]
        simp only [Nat.add_le_add_iff_right]
        rfl

private theorem readValue_numeral {c : Char} (h : c = '-' ∨ c.isDigit = true) :
    readValue (fuel + 1) limit (c :: text) = readNumber (c :: text) := by
  rw [readValue, skipBlank_cons (not_isBlank_of_numeral h)]
  split
  all_goals rename_i heq
  · cases heq
  iterate 6 exact absurd (List.cons.inj heq).1 (ne_of_numeral h (by decide))
  · rw [heq]

private theorem readsBack_int {n : Int} (low : -9223372036854775808 ≤ n) (high : n ≤ 18446744073709551615) :
    (int n).ReadsBack := by
  intro fuel limit rest hfuel hrest
  obtain ⟨fuel, rfl⟩ := exists_succ_of_writeChars (.int low high) hfuel
  obtain ⟨c, text, hcons, hc⟩ := intChars_eq_cons n
  have hread := readNumber_intChars hrest low high
  rw [hcons, List.cons_append] at hread
  rw [writeChars, hcons, List.cons_append, readValue_numeral (hc.imp And.left And.left), hread]
  rfl

private theorem readsBack_str (s : String) : (str s).ReadsBack := by
  intro fuel limit rest hfuel hrest
  obtain ⟨fuel, rfl⟩ := exists_succ_of_writeChars (.str s) hfuel
  rw [writeChars, writeString_append, readValue, skipBlank_cons (by decide)]
  show (readStringRest _ [] _).bind _ = _
  rw [readStringRest_content]
  rfl

theorem Plain.readsBack {v : Json} (h : v.Plain) : v.ReadsBack := by
  induction h with
  | null =>
      intro fuel limit rest hfuel hrest
      obtain ⟨fuel, rfl⟩ := exists_succ_of_writeChars .null hfuel
      rfl
  | bool b =>
      intro fuel limit rest hfuel hrest
      obtain ⟨fuel, rfl⟩ := exists_succ_of_writeChars (.bool b) hfuel
      cases b <;> rfl
  | int low high => exact readsBack_int low high
  | str s => exact readsBack_str s
  | arr hitems ih => exact readsBack_arr (.arr hitems) ih
  | obj ordered hfields ih => exact readsBack_obj (.obj ordered hfields) ih

theorem readWithin_write {v : Json} (h : v.Plain) (limit : Nat) :
    readWithin limit v.write = if v.depth ≤ limit then some v else none := by
  have hread := h.readsBack (2 * v.writeChars.length + 2) limit [] (by omega) continues_nil
  rw [List.append_nil] at hread
  rw [readWithin, write, String.toList_ofList]
  dsimp only
  rw [hread]
  split <;> rfl

end CorpusSearch.Json
