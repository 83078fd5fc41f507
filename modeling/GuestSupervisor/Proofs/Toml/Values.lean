import GuestSupervisor.Proofs.Text.Numeral
import GuestSupervisor.Proofs.Toml.Strings
import GuestSupervisor.Toml.Reader

/-!
# Values that are read back

Behind a value in a document is the end of its line, a comma or a bracket.  In front of any of these
strings, integers, truth values and arrays of them are read back as they were written, down to the
depth to which arrays may nest.

## Main Definitions

* `Ends` — a text that ends the value before it.
* `Value.isPlain` — values for which there is one line, or one array on several lines.

## Main Statements

* `number?_toString` — integers are read back, and as nothing else than integers.
* `value?_valueText` — so are all plain values.
-/

namespace GuestSupervisor.Toml

open Text

variable {c : Char} {digits rest seen : List Char} {n : Nat}

/-- **A text that ends the value before it**: it is empty, or it begins with the end of a line, a
comma or a bracket. -/
def Ends (rest : List Char) : Prop := ∀ c, rest.head? = some c → c = '\n' ∨ c = ',' ∨ c = ']'

theorem ends_cons (ends : c ∈ ['\n', ',', ']']) : Ends (c :: rest) := by
  rintro _ ⟨⟩
  simpa using ends

/-! ## Digits -/

/-- Only the numeral of zero begins with a zero. -/
theorem eq_zero_of_head_decimal (zero : (decimal n).head? = some '0') : n = 0 := by
  induction n using Nat.strongRecOn with
  | _ n ih =>
    unfold decimal at zero ih
    rw [Nat.toDigits_eq_if (by omega)] at zero
    split at zero
    · rename_i small
      have all : ∀ m : Fin 10, [Nat.digitChar m.val].head? = some '0' → m.val = 0 := by decide
      exact all ⟨n, small⟩ zero
    · rename_i large
      rw [List.head?_append_of_ne_nil _ Nat.toDigits_ne_nil] at zero
      have := ih (n / 10) (by omega) zero
      omega

theorem moreDigits_append (all : ∀ d ∈ digits, d.isDigit) (ends : Ends rest) :
    moreDigits Char.isDigit seen (digits ++ rest) = some (seen.reverse ++ digits, rest) := by
  induction digits generalizing seen with
  | nil =>
    cases rest with
    | nil => simp [moreDigits]
    | cons c rest =>
      rcases ends c rfl with rfl | rfl | rfl <;> simp [moreDigits]
  | cons d digits ih =>
    rw [List.forall_mem_cons] at all
    rw [List.cons_append, moreDigits, if_pos all.1, ih all.2]
    · simp
    · rintro rfl
      exact absurd all.1 (by decide)

/-- A numeral begins with a digit. -/
theorem exists_decimal (n : Nat) : ∃ d ds, decimal n = d :: ds ∧ d.isDigit := by
  obtain ⟨d, ds, written⟩ : ∃ d ds, decimal n = d :: ds :=
    List.exists_cons_of_ne_nil Nat.toDigits_ne_nil
  exact ⟨d, ds, written, isDigit_of_mem_decimal (written ▸ List.mem_cons_self)⟩

/-- **The digits of a numeral are read up to its end.** -/
theorem wholeDigits?_decimal (n : Nat) (ends : Ends rest) :
    wholeDigits? (decimal n ++ rest) = some (decimal n, rest) := by
  obtain ⟨first, others, written, -⟩ := exists_decimal n
  have all : ∀ d ∈ first :: others, d.isDigit := fun d member =>
    isDigit_of_mem_decimal (written ▸ member)
  rw [List.forall_mem_cons] at all
  by_cases zero : first = '0'
  · subst zero
    obtain rfl := eq_zero_of_head_decimal (n := n) (by rw [written]; rfl)
    rfl
  · rw [written, List.cons_append, wholeDigits?, digitRun?, if_pos all.1,
      moreDigits_append all.2 ends]
    · rfl
    · exact fun _ same => zero (List.cons.inj same).1

/-! ## Numbers that are no dates -/

theorem isDigit_of_ends (ends : Ends rest) (head : rest.head? = some c) : c.isDigit = false := by
  rcases ends c head with rfl | rfl | rfl <;> decide

theorem after?_of_head {mark : Char} (other : ∀ c, rest.head? = some c → c ≠ mark) :
    after? mark rest = none := by
  cases rest with
  | nil => rfl
  | cons c rest => exact if_neg (other c rfl)

/-- A field of digits is inside a numeral, and there is no mark right behind it. -/
theorem after?_of_field? {count low high m : Nat} {mark : Char} {after : List Char}
    (all : ∀ d ∈ digits, d.isDigit) (ends : Ends rest) (other : mark ∈ ['-', ':'])
    (read : field? count low high (digits ++ rest) = some (m, after)) :
    after? mark after = none := by
  unfold field? at read
  simp only [Option.ite_none_right_eq_some, Option.some.injEq, Prod.mk.injEq] at read
  obtain ⟨⟨full, inside, -⟩, -, rfl⟩ := read
  have short : count ≤ digits.length := by
    rw [List.all_eq_true] at inside
    by_contra long
    cases rest with
    | nil =>
      simp at full
      omega
    | cons c rest =>
      obtain ⟨k, rfl⟩ : ∃ k, count = digits.length + (k + 1) := ⟨count - digits.length - 1, by omega⟩
      have digit : c.isDigit := inside c (by simp [List.take_append])
      rw [isDigit_of_ends ends rfl] at digit
      cases digit
  refine after?_of_head fun c head => ?_
  rw [List.drop_append_of_le_length short, List.head?_append] at head
  rintro rfl
  cases behind : (digits.drop count).head? with
  | none =>
    rw [behind, Option.none_or] at head
    rcases ends c head with rfl | rfl | rfl <;> exact absurd other (by decide)
  | some d =>
    rw [behind, Option.some_or] at head
    cases head
    have digit := all c (List.mem_of_mem_drop (List.mem_of_head? behind))
    simp only [List.mem_cons, List.not_mem_nil, or_false] at other
    rcases other with rfl | rfl <;> exact absurd digit (by decide)

/-- **A numeral is no date and no time of day.** -/
theorem datetime?_decimal (n : Nat) (ends : Ends rest) : datetime? (decimal n ++ rest) = none := by
  have noMark (count low high : Nat) (mark : Char) (other : mark ∈ ['-', ':']) :
      (field? count low high (decimal n ++ rest)).bind (fun r => after? mark r.2) = none := by
    cases read : field? count low high (decimal n ++ rest) with
    | none => rfl
    | some r => exact after?_of_field? (fun d => isDigit_of_mem_decimal) ends other read
  have noDate : date? (decimal n ++ rest) = none := by
    have none := noMark 4 0 9999 '-' (by decide)
    unfold date?
    cases read : field? 4 0 9999 (decimal n ++ rest) with
    | none => rfl
    | some r =>
      rw [read, Option.bind_some] at none
      simp [none]
  have noTime : time? (decimal n ++ rest) = none := by
    have none := noMark 2 0 23 ':' (by decide)
    unfold time?
    cases read : field? 2 0 23 (decimal n ++ rest) with
    | none => rfl
    | some r =>
      rw [read, Option.bind_some] at none
      simp [none]
  simp [datetime?, noDate, noTime]

theorem datetime?_minus (text : List Char) : datetime? ('-' :: text) = none := by
  have noField (count low high : Nat) : field? (count + 1) low high ('-' :: text) = none := by
    simp [field?]
  simp [datetime?, date?, time?, noField]

/-- **A numeral is no floating-point number**, with a sign or without. -/
theorem float?_decimal {text : List Char} {negative : Bool} (n : Nat) (ends : Ends rest)
    (signed : sign text = (negative, decimal n ++ rest)) : float? text = none := by
  have noDecimal : decimalFloat? text = none := by
    unfold decimalFloat?
    rw [signed]
    simp only [Option.bind_eq_bind, wholeDigits?_decimal n ends, Option.bind_some]
    cases rest with
    | nil => rfl
    | cons c rest => rcases ends c rfl with rfl | rfl | rfl <;> rfl
  have noWord : specialFloat? text = none := by
    have noWord (letters : List Char) (letter : letters.head?.any fun c => !c.isDigit) :
        letters.isPrefixOf? (decimal n ++ rest) = none := by
      obtain ⟨d, ds, written, digit⟩ := exists_decimal n
      cases letters with
      | nil => cases letter
      | cons c letters =>
        have other : c ≠ d := by
          rintro rfl
          simp [digit] at letter
        simp [written, List.isPrefixOf?, other]
    unfold specialFloat?
    rw [signed]
    simp only
    rw [noWord _ (by decide), noWord _ (by decide)]
    rfl
  simp [float?, noDecimal, noWord]

/-! ## Integers -/

/-- The numeral of an integer. -/
theorem toList_toString (n : Int) :
    (toString n).toList = (if n < 0 then ['-'] else []) ++ decimal n.natAbs := by
  cases n with
  | ofNat n => simp [decimal, toString, Int.repr]
  | negSucc n => simp [decimal, toString, Int.repr]

theorem sign_decimal (n : Nat) (rest : List Char) :
    sign (decimal n ++ rest) = (false, decimal n ++ rest) := by
  obtain ⟨d, ds, written, digit⟩ := exists_decimal n
  rw [written, List.cons_append, sign]
  all_goals
    rintro more ⟨⟩
    exact absurd digit (by decide)

/-- An integer without a mark for its base is read in base ten. -/
theorem integer?_decimal {text : List Char} {negative : Bool} {n : Nat} (ends : Ends rest)
    (signed : sign text = (negative, decimal n ++ rest)) :
    integer? text = ranged (if negative then -n else n) rest := by
  have value : digitsValue (decimal n) = n := by
    have read := readDigits?_decimal n
    exact (readDigits?_eq_some_iff.mp read).2.2
  have unmarked : ∀ mark more, decimal n ++ rest = '0' :: mark :: more →
      mark ∉ ['x', 'o', 'b'] := by
    intro mark more same marked
    have zero : n = 0 := by
      obtain ⟨d, ds, written, -⟩ := exists_decimal n
      refine eq_zero_of_head_decimal ?_
      rw [written] at same ⊢
      exact congrArg some (List.cons.inj same).1
    subst zero
    obtain rfl : rest = mark :: more := (List.cons.inj same).2
    rcases ends mark rfl with rfl | rfl | rfl <;> exact absurd marked (by decide)
  unfold integer?
  split
  iterate 3
    exact absurd (by decide) (unmarked _ _ (Prod.mk.inj signed).2.symm)
  · rw [signed]
    simp [wholeDigits?_decimal n ends, value]

/-- **Integers are read back**, and as nothing else than integers. -/
theorem number?_toString {n : Int} (fits : inRange n) (ends : Ends rest) :
    number? ((toString n).toList ++ rest) = some (.integer n, rest) := by
  rw [toList_toString, List.append_assoc]
  by_cases negative : n < 0
  · have signed : sign ('-' :: (decimal n.natAbs ++ rest)) = (true, decimal n.natAbs ++ rest) := rfl
    have value : -(n.natAbs : Int) = n := by omega
    rw [if_pos negative, List.singleton_append, number?, datetime?_minus,
      float?_decimal _ ends signed, integer?_decimal ends signed]
    simp only [if_true, value, ranged, fits, Option.map_some]
  · have signed := sign_decimal n.natAbs rest
    have value : (n.natAbs : Int) = n := by omega
    rw [if_neg negative, List.nil_append, number?, datetime?_decimal _ ends,
      float?_decimal _ ends signed, integer?_decimal ends signed]
    simp only [Bool.false_eq_true, if_false, value, ranged, fits, if_true, Option.map_some]

/-! ## Plain values -/

namespace Value

mutual

/-- **A value that is plain to a depth**: a string, an integer in range, a truth value, or an array
of such values that nests no deeper. -/
def isPlain : Nat → Value → Bool
  | _, string _ => true
  | _, integer n => inRange n
  | _, boolean _ => true
  | depth + 1, array items => allPlain depth items
  | _, _ => false

/-- All of these are plain to a depth. -/
def allPlain (depth : Nat) : List Value → Bool
  | [] => true
  | item :: rest => item.isPlain depth && allPlain depth rest

end

end Value

open Value

variable {depth budget : Nat}

/-- A string begins with a quote. -/
theorem exists_stringText (text : List Char) :
    ∃ quote more, stringText text = quote :: more ∧ (quote = '"' ∨ quote = '\'') := by
  unfold stringText
  simp only [List.append_assoc]
  cases StringStyle.choose text with
  | basic => exact ⟨'"', _, rfl, .inl rfl⟩
  | literal => exact ⟨'\'', _, rfl, .inr rfl⟩
  | longBasic => split <;> exact ⟨'"', _, rfl, .inl rfl⟩
  | longLiteral => split <;> exact ⟨'\'', _, rfl, .inr rfl⟩

/-- An integer begins with a digit or a minus. -/
theorem exists_toString (n : Int) :
    ∃ c more, (toString n).toList = c :: more ∧ (c.isDigit ∨ c = '-') := by
  obtain ⟨d, ds, written, digit⟩ := exists_decimal n.natAbs
  rw [toList_toString, written]
  split
  · exact ⟨'-', _, rfl, .inr rfl⟩
  · exact ⟨d, ds, rfl, .inl digit⟩

/-- The characters that are passed over in front of a value, or that are in its place. -/
def gaps : List Char := [' ', '\t', '\n', '\r', '#', ']']

/-- **A plain value begins with a character of its own.** -/
theorem exists_valueText : ∀ {v : Value}, v.isPlain depth →
    ∃ c more, valueText v = c :: more ∧ c ∉ gaps
  | .string text, _ => by
    obtain ⟨quote, more, written, rfl | rfl⟩ := exists_stringText text.toList
    · exact ⟨_, more, written, by decide⟩
    · exact ⟨_, more, written, by decide⟩
  | .integer n, _ => by
    obtain ⟨c, more, written, digit⟩ := exists_toString n
    refine ⟨c, more, written, fun gap => ?_⟩
    simp only [gaps, List.mem_cons, List.not_mem_nil, or_false] at gap
    rcases gap with rfl | rfl | rfl | rfl | rfl | rfl <;> simp at digit
  | .boolean true, _ => ⟨'t', _, rfl, by decide⟩
  | .boolean false, _ => ⟨'f', _, rfl, by decide⟩
  | .array [], _ => ⟨'[', _, rfl, by decide⟩
  | .array [_], _ => ⟨'[', _, rfl, by decide⟩
  | .array (_ :: _ :: _), _ => ⟨'[', _, rfl, by decide⟩

/-- Nothing is passed over in front of a character of another kind. -/
theorem skipBetween_cons (other : c ∉ [' ', '\t', '\n', '\r', '#']) (budget : Nat)
    (rest : List Char) :
    skipBetween budget (c :: rest) = c :: rest := by
  simp only [List.mem_cons, List.not_mem_nil, or_false, not_or] at other
  obtain ⟨noSpace, noTab, noFeed, noReturn, noComment⟩ := other
  have stays : skipBlankLines (c :: rest) = c :: rest := by
    rw [skipBlankLines] <;> simp_all
  cases budget with
  | zero => rfl
  | succ budget =>
    have uncommented : comment? (c :: rest) = none := by
      rw [comment?]
      exact fun _ same => noComment (List.cons.inj same).1
    simp only [skipBetween, stays, uncommented]

/-- A line that is indented is read from its first character. -/
theorem skipBetween_indented (other : c ∉ [' ', '\t', '\n', '\r', '#']) (budget : Nat)
    (rest : List Char) :
    skipBetween (budget + 1) ("\n    ".toList ++ c :: rest) = c :: rest :=
  (rfl : _ = skipBetween (budget + 1) (c :: rest)).trans (skipBetween_cons other _ rest)

/-! ### Values -/

/-- A string in the place of a value. -/
theorem value?_stringText (text : List Char) (ends : Ends rest) :
    value? depth (budget + 1) (stringText text ++ rest)
      = some (.string (String.ofList text), rest) := by
  have other : rest.head? ∉ [some '"', some '\''] := by
    cases rest with
    | nil => decide
    | cons c rest => rcases ends c rfl with rfl | rfl | rfl <;> simp
  have read := string?_stringText text other
  obtain ⟨quote, more, written, quoted⟩ := exists_stringText text
  rw [written, List.cons_append] at read ⊢
  rw [value?.eq_def]
  simp only [if_pos quoted, read, Option.map_some]

/-- An integer in the place of a value. -/
theorem value?_toString {n : Int} (fits : inRange n) (ends : Ends rest) :
    value? depth (budget + 1) ((toString n).toList ++ rest) = some (.integer n, rest) := by
  have read := number?_toString fits ends
  obtain ⟨c, more, written, digit⟩ := exists_toString n
  rw [written, List.cons_append] at read ⊢
  have others : ∀ mark ∈ ['"', '\'', '[', '\x7b', 't', 'f', 'i', 'n'], c ≠ mark := by
    rintro mark member rfl
    simp only [List.mem_cons, List.not_mem_nil, or_false] at member
    rcases member with rfl | rfl | rfl | rfl | rfl | rfl | rfl | rfl <;> simp at digit
  simp only [List.forall_mem_cons] at others
  obtain ⟨h1, h2, h3, h4, h5, h6, h7, h8, -⟩ := others
  rw [value?.eq_def]
  simp only
  rw [if_neg (by simp [h1, h2]), if_neg h3, if_neg h4, if_neg h5, if_neg h6, if_neg h7, if_neg h8,
    if_pos (by rcases digit with digit | rfl <;> simp [*]), read]

/-- A truth value in the place of a value. -/
theorem value?_boolean (b : Bool) (rest : List Char) :
    value? depth (budget + 1) (valueText (.boolean b) ++ rest) = some (.boolean b, rest) := by
  cases b with
  | true => rfl
  | false => rfl

/-! ### Arrays -/

theorem value?_bracket (text : List Char) :
    value? (depth + 1) (budget + 1) ('[' :: text) = arrayItems? depth budget [] text := by
  rw [value?.eq_def]
  simp

variable {text : List Char} {items : List Value} {item : Value}

/-- An array ends at its bracket. -/
theorem arrayItems?_close (next : skipBetween text.length text = ']' :: rest) :
    arrayItems? depth (budget + 1) items text = some (.array items.reverse, rest) := by
  rw [arrayItems?.eq_def]
  simp only [next]

/-- An item with a comma behind it. -/
theorem arrayItems?_comma (other : c ≠ ']') (next : skipBetween text.length text = c :: seen)
    (read : value? depth budget (c :: seen) = some (item, ',' :: rest)) :
    arrayItems? depth (budget + 1) items text = arrayItems? depth budget (item :: items) rest := by
  rw [arrayItems?.eq_def]
  simp only [next]
  split
  · rename_i same
    exact absurd (List.cons.inj same).1 other
  · simp only [read, skipBetween_cons (show ',' ∉ [' ', '\t', '\n', '\r', '#'] by decide)]

/-- An item with the bracket behind it. -/
theorem arrayItems?_last (other : c ≠ ']') (next : skipBetween text.length text = c :: seen)
    (read : value? depth budget (c :: seen) = some (item, ']' :: rest)) :
    arrayItems? depth (budget + 1) items text = some (.array (item :: items).reverse, rest) := by
  rw [arrayItems?.eq_def]
  simp only [next]
  split
  · rename_i same
    exact absurd (List.cons.inj same).1 other
  · simp only [read, skipBetween_cons (show ']' ∉ [' ', '\t', '\n', '\r', '#'] by decide)]

mutual

/-- **A plain value is read back**, if there is a turn for each half of a character. -/
theorem value?_valueText : ∀ (v : Value) {depth budget : Nat} {rest : List Char},
    v.isPlain depth → Ends rest → 2 * (valueText v).length ≤ budget →
    value? depth budget (valueText v ++ rest) = some (v, rest)
  | .string text, depth, budget, rest, plain, ends, enough => by
    obtain ⟨c, more, written, -⟩ := exists_valueText plain
    rw [written, List.length_cons] at enough
    obtain ⟨budget, rfl⟩ : ∃ b, budget = b + 1 := ⟨budget - 1, by omega⟩
    refine (value?_stringText text.toList ends).trans ?_
    rw [String.ofList_toList]
  | .integer n, depth, budget, rest, plain, ends, enough => by
    obtain ⟨c, more, written, -⟩ := exists_valueText plain
    rw [written, List.length_cons] at enough
    obtain ⟨budget, rfl⟩ : ∃ b, budget = b + 1 := ⟨budget - 1, by omega⟩
    exact value?_toString plain ends
  | .boolean b, depth, budget, rest, plain, ends, enough => by
    obtain ⟨c, more, written, -⟩ := exists_valueText plain
    rw [written, List.length_cons] at enough
    obtain ⟨budget, rfl⟩ : ∃ b, budget = b + 1 := ⟨budget - 1, by omega⟩
    exact value?_boolean b rest
  | .array [], depth + 1, budget, rest, plain, ends, enough => by
    obtain ⟨budget, rfl⟩ : ∃ b, budget = b + 2 := ⟨budget - 2, by simp [valueText] at enough; omega⟩
    exact (value?_bracket (']' :: rest)).trans (arrayItems?_close (skipBetween_cons (by decide) _ _))
  | .array [item], depth + 1, budget, rest, plain, ends, enough => by
    have plain : item.isPlain depth := by simpa [isPlain, allPlain] using plain
    obtain ⟨c, more, written, other⟩ := exists_valueText plain
    simp only [gaps, List.mem_cons, List.not_mem_nil, or_false, not_or] at other
    simp only [valueText, List.cons_append, List.append_assoc, List.length_cons, List.length_append]
      at enough ⊢
    obtain ⟨budget, rfl⟩ : ∃ b, budget = b + 2 := ⟨budget - 2, by omega⟩
    have read : value? depth budget (valueText item ++ ']' :: rest) = some (item, ']' :: rest) :=
      value?_valueText item plain (ends_cons (by decide)) (by omega)
    rw [written] at read ⊢
    rw [value?_bracket]
    refine (arrayItems?_last other.2.2.2.2.2 (skipBetween_cons ?_ _ _) read).trans rfl
    simp [other]
  | .array (item :: next :: items), depth + 1, budget, rest, plain, ends, enough => by
    simp only [valueText, List.cons_append, List.append_assoc, List.length_cons, List.length_append]
      at enough ⊢
    obtain ⟨budget, rfl⟩ : ∃ b, budget = b + 1 := ⟨budget - 1, by omega⟩
    have plain : allPlain depth (item :: next :: items) := by simpa only [isPlain] using plain
    exact (value?_bracket _).trans (arrayItems?_itemsText _ plain (by omega))

/-- The items of an array are read back. -/
theorem arrayItems?_itemsText : ∀ (items : List Value) {depth budget : Nat} {seen : List Value}
    {rest : List Char}, allPlain depth items → 2 * (itemsText items).length < budget →
    arrayItems? depth budget seen (itemsText items ++ '\n' :: ']' :: rest)
      = some (.array (seen.reverse ++ items), rest)
  | [], depth, budget, seen, rest, plain, enough => by
    obtain ⟨budget, rfl⟩ : ∃ b, budget = b + 1 := ⟨budget - 1, by omega⟩
    have next : skipBetween (rest.length + 2) ('\n' :: ']' :: rest) = ']' :: rest :=
      (rfl : _ = skipBetween (rest.length + 2) (']' :: rest)).trans
        (skipBetween_cons (by decide) _ _)
    rw [List.append_nil]
    exact arrayItems?_close next
  | item :: items, depth, budget, seen, rest, plain, enough => by
    simp only [allPlain, Bool.and_eq_true] at plain
    obtain ⟨plain, others⟩ := plain
    obtain ⟨c, more, written, other⟩ := exists_valueText plain
    simp only [gaps, List.mem_cons, List.not_mem_nil, or_false, not_or] at other
    simp only [itemsText, List.cons_append, List.append_assoc, List.length_cons, List.length_append]
      at enough ⊢
    obtain ⟨budget, rfl⟩ : ∃ b, budget = b + 1 := ⟨budget - 1, by omega⟩
    have read : ∀ behind, value? depth budget (valueText item ++ ',' :: behind)
        = some (item, ',' :: behind) := fun behind =>
      value?_valueText item plain (ends_cons (by decide)) (by omega)
    have goesOn : arrayItems? depth budget (item :: seen) (itemsText items ++ '\n' :: ']' :: rest)
        = some (.array ((item :: seen).reverse ++ items), rest) :=
      arrayItems?_itemsText items others (by omega)
    rw [written] at read ⊢
    rw [List.reverse_cons, List.append_assoc, List.singleton_append] at goesOn
    refine (arrayItems?_comma other.2.2.2.2.2 (skipBetween_indented ?_ _ _) (read _)).trans goesOn
    simp [other]

end

end GuestSupervisor.Toml
