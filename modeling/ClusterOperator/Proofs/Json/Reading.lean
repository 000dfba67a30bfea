import ClusterOperator.Json.Printer
import ClusterOperator.Json.Reader
import ClusterOperator.Json.Record
import ClusterOperator.Proofs.Text.Digits

/-!
# JSON text is read as it was written

* `readString_quote` : a string, whatever its characters, with the text after it;
* `Closes` : the text that may follow a value; `readNumber_digits` : a whole number before it;
* `IsReadable` : a value made of what the reader keeps: whole numbers of 64 bits, and no more
  brackets than it counts;
* `ReadsBack` : a value is read whole before any text that may follow it;
  `IsReadable.readsBack` : every readable value is;
* `IsReadable.parse?_print` : the text of such a value holds it;
* `isReadable_map`, `isReadable_nonEmpty` : members that may be absent; `isReadable_record` : whole
  records.
-/

namespace ClusterOperator.Json

open Text.Decimal (digits digitValue? value signed StopsDigits)

/-! ## Strings -/

theorem hexUnit?_control {n : Nat} (h : n < 0x20) :
    hexUnit? '0' '0' (hexDigit (n / 16)) (hexDigit (n % 16)) = some n := by
  have hall : ∀ n < 0x20, hexUnit? '0' '0' (hexDigit (n / 16)) (hexDigit (n % 16)) = some n := by
    decide
  exact hall n h

theorem StringScan.pushUnit_control {c : Char} (scan : StringScan) (h : c.toNat < 0x20) :
    scan.pushUnit c.toNat = scan.push c := by
  unfold StringScan.pushUnit
  rw [if_neg (by omega), if_neg (by omega), Char.ofNat_toNat]

theorem readString_unit {a b c d : Char} {u : Nat} (h : hexUnit? a b c d = some u)
    (scan : StringScan) (rest : List Char) :
    readString scan ('\\' :: 'u' :: a :: b :: c :: d :: rest) =
      readString (scan.pushUnit u) rest := by
  rw [readString, h]

theorem readString_escape (c : Char) (scan : StringScan) (rest : List Char) :
    readString scan (escape c ++ rest) = readString (scan.push c) rest := by
  unfold escape
  split
  · next h => rw [h]; rfl
  split
  · next h => rw [h]; rfl
  split
  · next h => rw [h]; rfl
  split
  · next h => rw [h]; rfl
  split
  · next h => rw [h]; rfl
  split
  · next h => rw [h]; rfl
  split
  · next h => rw [h]; rfl
  split
  · next h =>
    show readString scan ('\\' :: 'u' :: '0' :: '0' :: hexDigit (c.toNat / 16) ::
      hexDigit (c.toNat % 16) :: rest) = _
    rw [readString_unit (hexUnit?_control h), StringScan.pushUnit_control scan h]
  · next hquote hback _ _ _ _ _ hplain =>
    rw [List.singleton_append, readString]
    · rw [if_neg hplain]
    all_goals simp_all

/-- What has been read is the characters, and no half of a pair waits or stood alone. -/
theorem readString_escapes (s read rest : List Char) :
    readString { chars := read } (s.flatMap escape ++ '"' :: rest) =
      some (some (String.ofList (read.reverse ++ s)), rest) := by
  induction s generalizing read with
  | nil =>
    show some (some (String.ofList read.reverse), rest) = _
    rw [List.append_nil]
  | cons c s ih =>
    rw [List.flatMap_cons, List.append_assoc, readString_escape]
    show readString { chars := c :: read } (s.flatMap escape ++ '"' :: rest) = _
    rw [ih, List.reverse_cons, List.append_assoc, List.singleton_append]

theorem readString_quote (s : String) (rest : List Char) :
    readString {} (s.toList.flatMap escape ++ '"' :: rest) = some (some s, rest) := by
  have h := readString_escapes s.toList [] rest
  rwa [List.reverse_nil, List.nil_append, String.ofList_toList] at h

/-! ## Numbers -/

/-- The text ends, or goes on with a mark that may follow a value. -/
def Closes (rest : List Char) : Prop :=
  ∀ c ∈ rest.head?, c = ',' ∨ c = ']' ∨ c = '}'

theorem closes_nil : Closes [] := by
  intro c hc
  cases hc

theorem closes_cons {c : Char} (h : c = ',' ∨ c = ']' ∨ c = '}') (rest : List Char) :
    Closes (c :: rest) := by
  intro x hx
  rw [List.head?_cons, Option.mem_some_iff] at hx
  rw [← hx]
  exact h

theorem Closes.stopsDigits {rest : List Char} (h : Closes rest) : StopsDigits rest := by
  intro c hc
  rcases h c hc with rfl | rfl | rfl <;> rfl

def FitsWord (n : Int) : Prop :=
  -9223372036854775808 ≤ n ∧ n ≤ 18446744073709551615

theorem readNumber_digits (negative : Bool) (n : Nat) {rest : List Char} (h : Closes rest) :
    readNumber negative (digits n ++ rest) = some (wholeNumber negative (digits n), rest) := by
  have hspan : spanDigits (digits n ++ rest) = (digits n, rest) :=
    Text.Decimal.span_append (fun c hc => Text.Decimal.isSome_digitValue?_of_mem_digits hc)
      h.stopsDigits
  have hzero : ¬((digits n).length > 1 ∧ (digits n).head? = some '0') := by
    intro ⟨hlen, hhead⟩
    exact Text.Decimal.head?_digits_ne_zero hlen hhead
  unfold readNumber
  rw [hspan]
  match hds : digits n, Text.Decimal.digits_ne_nil n with
  | d :: ds, _ =>
    rw [hds] at hzero
    simp only [if_neg hzero]
    match rest, h with
    | [], _ => rfl
    | c :: rest, h =>
      rcases h c rfl with rfl | rfl | rfl <;> rfl

theorem wholeNumber_digits {n : Nat} (h : n < 18446744073709551616) :
    wholeNumber false (digits n) = .int n := by
  unfold wholeNumber
  simp only [Text.Decimal.value_digits, Bool.false_eq_true, if_false]
  rw [if_pos h]

theorem wholeNumber_negative {n : Nat} (h0 : n ≠ 0) (h : n ≤ 9223372036854775808) :
    wholeNumber true (digits n) = .int (-(n : Int)) := by
  unfold wholeNumber
  simp only [Text.Decimal.value_digits, if_true]
  rw [if_neg h0, if_pos h]

/-! ## Values -/

/-- A value that is read as it was written where it stands in `depth` brackets. -/
inductive IsReadable : Nat → Json → Prop where
  | null {depth : Nat} : IsReadable depth .null
  | bool {depth : Nat} (b : Bool) : IsReadable depth (.bool b)
  | int {depth : Nat} {n : Int} (h : FitsWord n) : IsReadable depth (.int n)
  | str {depth : Nat} (s : String) : IsReadable depth (.str s)
  | arr {depth : Nat} {items : List Json} (hdepth : depth < maxDepth)
      (h : ∀ x ∈ items, IsReadable (depth + 1) x) : IsReadable depth (.arr items)
  | obj {depth : Nat} {members : List (String × Json)} (hdepth : depth < maxDepth)
      (h : ∀ m ∈ members, IsReadable (depth + 1) m.2) : IsReadable depth (.obj members)

/-- A character that a value may start with. -/
def Opens (c : Char) : Prop :=
  c ∈ ['n', 't', 'f', '"', '-', '[', '{'] ∨ (digitValue? c).isSome

theorem Opens.ne {c x : Char} (h : Opens c) (hx : ¬Opens x) : c ≠ x := by
  intro heq
  exact hx (heq ▸ h)

instance (c : Char) : Decidable (Opens c) :=
  inferInstanceAs (Decidable (_ ∨ _))

theorem skipBlank_cons {c : Char} (h : c ∉ [' ', '\t', '\n', '\r']) (s : List Char) :
    skipBlank (c :: s) = c :: s := by
  apply List.dropWhile_cons_of_neg
  simpa [or_assoc] using h

theorem Opens.skipBlank {c : Char} (h : Opens c) (s : List Char) :
    skipBlank (c :: s) = c :: s := by
  apply skipBlank_cons
  intro hblank
  simp only [List.mem_cons, List.not_mem_nil, or_false] at hblank
  rcases hblank with rfl | rfl | rfl | rfl <;> exact absurd h (by decide)

theorem exists_digit (n : Nat) : ∃ c s, digits n = c :: s ∧ (digitValue? c).isSome :=
  Text.Decimal.exists_cons_of_digits (Text.Decimal.digits_ne_nil n) fun _ =>
    Text.Decimal.isSome_digitValue?_of_mem_digits

theorem IsReadable.exists_start {depth : Nat} {j : Json} (h : IsReadable depth j) :
    ∃ c s, print j = c :: s ∧ Opens c := by
  cases h with
  | null => exact ⟨_, _, by rw [print], by decide⟩
  | bool b => cases b <;> exact ⟨_, _, by rw [print], by decide⟩
  | @int _ n _ =>
    rw [print, signed]
    split
    · exact ⟨_, _, rfl, by decide⟩
    · obtain ⟨c, s, hcs, hc⟩ := exists_digit n.natAbs
      exact ⟨c, s, hcs, .inr hc⟩
  | str s => exact ⟨_, _, by rw [print, quote], by decide⟩
  | arr => exact ⟨_, _, by rw [print], by decide⟩
  | obj => exact ⟨_, _, by rw [print], by decide⟩

theorem readValue_digits (fuel depth n : Nat) (rest : List Char) :
    readValue (fuel + 1) depth (digits n ++ rest) = readNumber false (digits n ++ rest) := by
  obtain ⟨c, s, hcs, hc⟩ := exists_digit n
  rw [hcs, List.cons_append, readValue, Opens.skipBlank (.inr hc)]
  split
  all_goals first
    | rfl
    | next h =>
      obtain ⟨rfl, -⟩ := List.cons.inj h
      exact absurd hc (by decide)

/-- The value is read whole before any text that may follow it. -/
def ReadsBack (depth : Nat) (j : Json) : Prop :=
  ∀ fuel rest, 2 * (print j).length ≤ fuel + 1 → Closes rest →
    readValue (fuel + 1) depth (print j ++ rest) = some (j, rest)

theorem readsBack_int {n : Int} (h : FitsWord n) (depth : Nat) : ReadsBack depth (.int n) := by
  intro fuel rest _ hrest
  obtain ⟨hlo, hhi⟩ := h
  rw [print, signed]
  by_cases hneg : n < 0
  · rw [if_pos hneg]
    show readNumber true (digits n.natAbs ++ rest) = _
    rw [readNumber_digits true _ hrest, wholeNumber_negative (by omega) (by omega)]
    rw [show -(n.natAbs : Int) = n by omega]
  · rw [if_neg hneg, readValue_digits, readNumber_digits false _ hrest,
      wholeNumber_digits (by omega)]
    rw [show (n.natAbs : Int) = n by omega]

theorem readsBack_str (s : String) (depth : Nat) : ReadsBack depth (.str s) := by
  intro fuel rest _ _
  rw [print, quote, List.cons_append, List.append_assoc, List.singleton_append]
  show (readString {} (s.toList.flatMap escape ++ '"' :: rest)).map _ = _
  rw [readString_quote]
  rfl

theorem ReadsBack.readValue {fuel depth : Nat} {j : Json} (h : ReadsBack depth j)
    (hpos : 0 < (print j).length) (hfuel : 2 * (print j).length ≤ fuel) {rest : List Char}
    (hrest : Closes rest) : readValue fuel depth (print j ++ rest) = some (j, rest) := by
  match fuel with
  | 0 => omega
  | fuel + 1 => exact h fuel rest hfuel hrest

theorem IsReadable.length_pos {depth : Nat} {j : Json} (h : IsReadable depth j) :
    0 < (print j).length := by
  obtain ⟨c, s, hcs, -⟩ := h.exists_start
  rw [hcs, List.length_cons]
  omega

theorem printItems_cons_cons (x y : Json) (items : List Json) :
    printItems (x :: y :: items) = print x ++ ',' :: printItems (y :: items) := by
  rw [printItems]
  intro h
  cases h

section

variable {fuel depth : Nat} {x : Json} (h : ReadsBack depth x) (hpos : 0 < (print x).length)
  (hfuel : 2 * (print x).length ≤ fuel)

include h hpos hfuel

theorem readItems_last (rest : List Char) :
    readItems (fuel + 1) depth (print x ++ ']' :: rest) = some ([x], rest) := by
  have hvalue := h.readValue hpos hfuel (closes_cons (.inr (.inl rfl)) rest)
  rw [readItems]
  simp (disch := decide) only [hvalue, skipBlank_cons]

theorem readItems_next {rest rest' : List Char} {items : List Json}
    (hnext : readItems fuel depth rest = some (items, rest')) :
    readItems (fuel + 1) depth (print x ++ ',' :: rest) = some (x :: items, rest') := by
  have hvalue := h.readValue hpos hfuel (closes_cons (.inl rfl) rest)
  rw [readItems]
  simp (disch := decide) only [hvalue, skipBlank_cons, hnext, Option.map_some]

end

theorem readItems_print {depth : Nat} {items : List Json} (hne : items ≠ [])
    (hread : ∀ x ∈ items, IsReadable depth x) (h : ∀ x ∈ items, ReadsBack depth x) (fuel : Nat)
    (rest : List Char) (hfuel : 2 * (printItems items).length ≤ fuel) :
    readItems (fuel + 1) depth (printItems items ++ ']' :: rest) = some (items, rest) := by
  induction items generalizing fuel with
  | nil => exact absurd rfl hne
  | cons x items ih =>
    have hpos := (hread x List.mem_cons_self).length_pos
    have hx := h x List.mem_cons_self
    match items with
    | [] =>
      rw [printItems] at hfuel ⊢
      exact readItems_last hx hpos hfuel rest
    | y :: items =>
      rw [printItems_cons_cons] at hfuel ⊢
      rw [List.length_append, List.length_cons] at hfuel
      rw [List.append_assoc, List.cons_append]
      match fuel with
      | 0 => omega
      | fuel + 1 =>
        apply readItems_next hx hpos (by omega)
        exact ih (by simp) (fun x hx => hread x (List.mem_cons_of_mem _ hx))
          (fun x hx => h x (List.mem_cons_of_mem _ hx)) fuel (by omega)

theorem printMembers_cons_cons (k : String) (x : Json) (m : String × Json)
    (members : List (String × Json)) :
    printMembers ((k, x) :: m :: members) =
      quote k ++ ':' :: (print x ++ ',' :: printMembers (m :: members)) := by
  rw [printMembers]
  intro h
  cases h

section

variable {fuel depth : Nat} {x : Json} (k : String) (h : ReadsBack depth x)
  (hpos : 0 < (print x).length) (hfuel : 2 * (print x).length ≤ fuel)

include h hpos hfuel

theorem readMembers_last (rest : List Char) :
    readMembers (fuel + 1) depth (quote k ++ ':' :: (print x ++ '}' :: rest)) =
      some (some [(k, x)], rest) := by
  have hvalue := h.readValue hpos hfuel (closes_cons (.inr (.inr rfl)) rest)
  have hname := readString_quote k (':' :: (print x ++ '}' :: rest))
  rw [quote, List.cons_append, List.append_assoc, List.singleton_append, readMembers]
  simp (disch := decide) only [skipBlank_cons, hname, hvalue, Option.map_some]

theorem readMembers_next {rest rest' : List Char} {members : List (String × Json)}
    (hnext : readMembers fuel depth rest = some (some members, rest')) :
    readMembers (fuel + 1) depth (quote k ++ ':' :: (print x ++ ',' :: rest)) =
      some (some ((k, x) :: members), rest') := by
  have hvalue := h.readValue hpos hfuel (closes_cons (.inl rfl) rest)
  have hname := readString_quote k (':' :: (print x ++ ',' :: rest))
  rw [quote, List.cons_append, List.append_assoc, List.singleton_append, readMembers]
  simp (disch := decide) only [skipBlank_cons, hname, hvalue, hnext, Option.map_some]

end

theorem readMembers_print {depth : Nat} {members : List (String × Json)} (hne : members ≠ [])
    (hread : ∀ m ∈ members, IsReadable depth m.2) (h : ∀ m ∈ members, ReadsBack depth m.2)
    (fuel : Nat) (rest : List Char) (hfuel : 2 * (printMembers members).length ≤ fuel) :
    readMembers (fuel + 1) depth (printMembers members ++ '}' :: rest) =
      some (some members, rest) := by
  induction members generalizing fuel with
  | nil => exact absurd rfl hne
  | cons m members ih =>
    obtain ⟨k, x⟩ := m
    have hpos : 0 < (print x).length := (hread _ List.mem_cons_self).length_pos
    have hx : ReadsBack depth x := h _ List.mem_cons_self
    match members with
    | [] =>
      rw [printMembers] at hfuel ⊢
      rw [List.length_append, List.length_cons] at hfuel
      rw [List.append_assoc, List.cons_append, readMembers_last k hx hpos (by omega)]
    | y :: members =>
      rw [printMembers_cons_cons] at hfuel ⊢
      simp only [List.length_append, List.length_cons] at hfuel
      rw [List.append_assoc, List.cons_append, List.append_assoc, List.cons_append]
      match fuel with
      | 0 => omega
      | fuel + 1 =>
        apply readMembers_next k hx hpos (by omega)
        exact ih (by simp) (fun m hm => hread m (List.mem_cons_of_mem _ hm))
          (fun m hm => h m (List.mem_cons_of_mem _ hm)) fuel (by omega)

/-- After an opening bracket, what does not close it is items. -/
theorem readValue_bracket {fuel depth : Nat} {c : Char} {s rest : List Char} {items : List Json}
    (hc : Opens c) (h : readItems fuel (depth + 1) (c :: s) = some (items, rest)) :
    readValue (fuel + 1) depth ('[' :: c :: s) = some (within depth (.arr items), rest) := by
  have hclose : c ≠ ']' := hc.ne (by decide)
  rw [readValue]
  simp (disch := decide) only [skipBlank_cons, hc.skipBlank]
  split
  · next heq => exact absurd (List.cons.inj heq).1 hclose
  · rw [h, Option.map_some]

/-- After an opening brace, a quote starts the name of a member. -/
theorem readValue_brace {fuel depth : Nat} {s rest : List Char} {members : List (String × Json)}
    (h : readMembers fuel (depth + 1) ('"' :: s) = some (some members, rest)) :
    readValue (fuel + 1) depth ('{' :: '"' :: s) = some (within depth (.obj members), rest) := by
  rw [readValue]
  simp (disch := decide) only [skipBlank_cons]
  show (readMembers fuel (depth + 1) ('"' :: s)).map _ = _
  rw [h, Option.map_some]

theorem exists_start_items {depth : Nat} {x : Json} (h : IsReadable depth x) (items : List Json) :
    ∃ c s, printItems (x :: items) = c :: s ∧ Opens c := by
  obtain ⟨c, s, hcs, hc⟩ := h.exists_start
  match items with
  | [] => exact ⟨c, s, by rw [printItems, hcs], hc⟩
  | y :: items => exact ⟨c, _, by rw [printItems_cons_cons, hcs, List.cons_append], hc⟩

theorem exists_quote_members (m : String × Json) (members : List (String × Json)) :
    ∃ s, printMembers (m :: members) = '"' :: s := by
  match members with
  | [] => exact ⟨_, by rw [printMembers, quote, List.cons_append]⟩
  | y :: members => exact ⟨_, by rw [printMembers_cons_cons, quote, List.cons_append]⟩

theorem readsBack_arr {depth : Nat} {items : List Json} (hdepth : depth < maxDepth)
    (hread : ∀ x ∈ items, IsReadable (depth + 1) x) (h : ∀ x ∈ items, ReadsBack (depth + 1) x) :
    ReadsBack depth (.arr items) := by
  intro fuel rest hfuel _
  rw [print, List.length_cons, List.length_append, List.length_singleton] at hfuel
  rw [print, List.cons_append, List.append_assoc, List.singleton_append]
  match items with
  | [] =>
    show some (within depth (.arr []), rest) = _
    rw [within, if_pos hdepth]
  | x :: items =>
    match fuel with
    | 0 => omega
    | fuel + 1 =>
      obtain ⟨c, s, hcs, hc⟩ := exists_start_items (hread x List.mem_cons_self) items
      have hitems := readItems_print (by simp) hread h fuel rest (by omega)
      rw [hcs, List.cons_append] at hitems ⊢
      rw [readValue_bracket hc hitems, within, if_pos hdepth]

theorem readsBack_obj {depth : Nat} {members : List (String × Json)} (hdepth : depth < maxDepth)
    (hread : ∀ m ∈ members, IsReadable (depth + 1) m.2)
    (h : ∀ m ∈ members, ReadsBack (depth + 1) m.2) : ReadsBack depth (.obj members) := by
  intro fuel rest hfuel _
  rw [print, List.length_cons, List.length_append, List.length_singleton] at hfuel
  rw [print, List.cons_append, List.append_assoc, List.singleton_append]
  match members with
  | [] =>
    show some (within depth (.obj []), rest) = _
    rw [within, if_pos hdepth]
  | m :: members =>
    match fuel with
    | 0 => omega
    | fuel + 1 =>
      obtain ⟨s, hs⟩ := exists_quote_members m members
      have hmembers := readMembers_print (by simp) hread h fuel rest (by omega)
      rw [hs, List.cons_append] at hmembers ⊢
      rw [readValue_brace hmembers, within, if_pos hdepth]

theorem IsReadable.readsBack {depth : Nat} {j : Json} (h : IsReadable depth j) :
    ReadsBack depth j := by
  induction h with
  | null => exact fun _ _ _ _ => rfl
  | bool b =>
    intro fuel rest _ _
    cases b <;> rfl
  | int h => exact readsBack_int h _
  | str s => exact readsBack_str s _
  | arr hdepth h ih => exact readsBack_arr hdepth h ih
  | obj hdepth h ih => exact readsBack_obj hdepth h ih

/-- The text of a value that can be read holds that value and nothing else. -/
theorem IsReadable.parse?_print {j : Json} (h : IsReadable 0 j) : parse? (print j) = some j := by
  have hread := h.readsBack (2 * (print j).length + 1) [] (by omega) closes_nil
  rw [List.append_nil] at hread
  unfold parse?
  rw [hread]
  rfl

theorem IsReadable.parse?_text {j : Json} (h : IsReadable 0 j) : parse? j.text.toList = some j := by
  rw [text, String.toList_ofList, h.parse?_print]

/-! ## Records -/

section

variable {α : Type} {encode : α → Json} {depth : Nat}

theorem isReadable_int32 (n : Int32) : IsReadable depth (ofInt32 n) := by
  have hlo := n.le_toInt
  have hhi := n.toInt_lt
  apply IsReadable.int
  unfold FitsWord
  omega

theorem isReadable_int64 (n : Int64) : IsReadable depth (ofInt64 n) := by
  have hlo := n.le_toInt
  have hhi := n.toInt_lt
  apply IsReadable.int
  unfold FitsWord
  omega

theorem isReadable_list (hdepth : depth < maxDepth)
    (h : ∀ a, IsReadable (depth + 1) (encode a)) (l : List α) :
    IsReadable depth (.arr (l.map encode)) := by
  apply IsReadable.arr hdepth
  intro x hx
  obtain ⟨a, -, rfl⟩ := List.mem_map.1 hx
  exact h a

theorem isReadable_some {j : Json} (h : IsReadable depth j) : ∀ v ∈ some j, IsReadable depth v := by
  intro v hv
  cases hv
  exact h

theorem isReadable_map (h : ∀ a, IsReadable depth (encode a)) (o : Option α) :
    ∀ v ∈ o.map encode, IsReadable depth v := by
  intro v hv
  obtain ⟨a, -, rfl⟩ := Option.map_eq_some_iff.1 hv
  exact h a

theorem isReadable_nonEmpty (hdepth : depth < maxDepth)
    (h : ∀ a, IsReadable (depth + 1) (encode a)) (l : List α) :
    ∀ v ∈ nonEmpty encode l, IsReadable depth v := by
  intro v hv
  unfold nonEmpty at hv
  split at hv
  · cases hv
  · cases hv
    exact isReadable_list hdepth h l

theorem isReadable_record {ms : List (String × Option Json)} (hdepth : depth < maxDepth)
    (h : ∀ m ∈ ms, ∀ v ∈ m.2, IsReadable (depth + 1) v) : IsReadable depth (record ms) := by
  apply IsReadable.obj hdepth
  intro m hm
  obtain ⟨⟨k, o⟩, ho, hv⟩ := List.mem_filterMap.1 hm
  obtain ⟨v, rfl, rfl⟩ := Option.map_eq_some_iff.1 hv
  exact h _ ho v rfl

end

end ClusterOperator.Json
