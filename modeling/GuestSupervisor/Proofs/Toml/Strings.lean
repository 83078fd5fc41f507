import GuestSupervisor.Toml.Writer

/-!
# Strings that are read back

A string is written in one of four kinds of quotes, and whichever was chosen, it is read back as it
was, whatever is behind its closing quotes.  A key is read back in the same way.

## Main Statements

* `basicBody_escapedText`, `longBasicBody_escapedText` — what was escaped is read back.
* `string?_stringText` — so is every string.
* `key?_keyText` — and every key.
-/

namespace GuestSupervisor.Toml

variable {c : Char} {seen text rest after written : List Char} {style : StringStyle}

/-! ## Escapes -/

/-- A character that is no control character may stand in a string as it is. -/
theorem isPrintable_of_not_isControl (plain : isControl c = false) (inLine : c ≠ '\n') :
    isPrintable c := by
  unfold isControl at plain
  unfold isPrintable
  simp at plain ⊢
  by_cases tab : c = '\t'
  · exact .inl tab
  · exact .inr (plain tab inLine)

/-- A control character is known from its number. -/
theorem hexDigitsValue?_upperHex {n : Nat} (small : n < 128) :
    hexDigitsValue? ['0', '0', upperHex (n / 16), upperHex (n % 16)] = some n := by
  have all : ∀ n : Fin 128, hexDigitsValue? ['0', '0', upperHex (n.val / 16),
      upperHex (n.val % 16)] = some n.val := by decide +kernel
  exact all ⟨n, small⟩

theorem charOf?_toNat (c : Char) : charOf? c.toNat = some c := by
  unfold charOf?
  rw [dif_pos (show c.toNat.isValidChar from c.valid)]
  rfl

/-- **An escape is read as the character that it was written for**, and it does not begin like a
break between lines. -/
theorem escape?_of_escapeIn (escaped : escapeIn style c = some written) :
    ∃ mark tail, written = '\\' :: mark :: tail ∧ mark ∉ [' ', '\t', '\n', '\r']
      ∧ ∀ more, escape? (mark :: (tail ++ more)) = some (c, more) := by
  unfold escapeIn at escaped
  split at escaped
  iterate 2
    cases escaped
    exact ⟨_, [], rfl, by decide, fun more => rfl⟩
  · split at escaped
    · cases escaped
    · cases escaped
      exact ⟨_, [], rfl, by decide, fun more => rfl⟩
  iterate 3
    cases escaped
    exact ⟨_, [], rfl, by decide, fun more => rfl⟩
  · split at escaped
    · rename_i control
      cases escaped
      refine ⟨'u', _, rfl, by decide, fun more => ?_⟩
      have small : c.toNat < 128 := by
        simp [isControl] at control
        omega
      simp [escape?, codePoint?, hexDigitsValue?_upperHex small, charOf?_toNat]
    · cases escaped

/-- What needs no escape may stand in a string as it is. -/
theorem plain_of_escapeIn (plain : escapeIn style c = none) :
    c ≠ '\\' ∧ c ≠ '\r' ∧ (isPrintable c ∨ c = '\n' ∧ style = .longBasic) := by
  unfold escapeIn at plain
  split at plain
  iterate 2 cases plain
  · split at plain
    · rename_i long
      exact ⟨by decide, by decide, .inr ⟨rfl, long⟩⟩
    · cases plain
  iterate 3 cases plain
  · split at plain
    · cases plain
    · rename_i inLine _ noReturn unescaped free
      exact ⟨unescaped, noReturn,
        .inl (isPrintable_of_not_isControl (Bool.not_eq_true _ ▸ free) inLine)⟩

/-! ## Strings in double quotes, on one line -/

theorem basicBody_plain (plain : isPrintable c) (unquoted : c ≠ '"') (unescaped : c ≠ '\\') :
    basicBody seen (c :: text) = basicBody (c :: seen) text := by
  rw [basicBody]
  · rw [if_pos plain]
  · exact unquoted
  · exact unescaped

theorem basicBody_escape (read : escape? text = some (c, after)) :
    basicBody seen ('\\' :: text) = basicBody (c :: seen) after := by
  rw [basicBody]
  split
  · rename_i same
    cases read.symm.trans same
    rfl
  · rename_i none
    cases read.symm.trans none

/-- **What was escaped is read back.** -/
theorem basicBody_escapedText (seen : List Char) (quotes : Nat) (text rest : List Char) :
    basicBody seen (escapedText .basic quotes text ++ '"' :: rest)
      = some (String.ofList (seen.reverse ++ text), rest) := by
  induction text generalizing seen quotes with
  | nil => simp [escapedText, basicBody]
  | cons c text ih =>
    have next (quotes : Nat) := ih (c :: seen) quotes
    rw [List.reverse_cons, List.append_assoc, List.singleton_append] at next
    unfold escapedText
    by_cases quoted : c = '"'
    · subst quoted
      rw [if_pos rfl, if_pos (show quotesAllowed .basic ≤ quotes from Nat.zero_le quotes),
        List.cons_append, List.cons_append,
        basicBody_escape rfl, next]
    · rw [if_neg quoted]
      cases escaped : escapeIn .basic c with
      | some written =>
        obtain ⟨mark, tail, rfl, -, read⟩ := escape?_of_escapeIn escaped
        simp only [List.cons_append, List.append_assoc]
        rw [basicBody_escape (read _), next]
      | none =>
        obtain ⟨unescaped, -, plain | ⟨-, ⟨⟩⟩⟩ := plain_of_escapeIn escaped
        simp only [List.cons_append]
        rw [basicBody_plain plain quoted unescaped, next]

/-! ## Closing quotes of several lines -/

/-- Up to two quotes right before the closing ones belong to the string. -/
theorem closeLong_replicate {quote : Char} {k : Nat} (few : k ≤ 2) (seen : List Char)
    (other : rest.head? ≠ some quote) :
    closeLong quote seen (List.replicate k quote ++ rest)
      = (String.ofList (seen.reverse ++ List.replicate k quote), rest) := by
  have stops : ∀ seen, closeLong quote seen rest = (String.ofList seen.reverse, rest) := by
    intro seen
    match rest, other with
    | [], _ => rfl
    | [a], other => simp_all [closeLong]
    | a :: b :: rest, other => simp_all [closeLong]
  match k, few with
  | 0, _ => simpa using stops seen
  | 1, _ =>
    match rest, other with
    | [], _ => simp [closeLong]
    | a :: rest, other => simp_all [closeLong]
  | 2, _ => simp [closeLong]

/-- Two quotes behind a quote are the closing ones, unless the text before them begins with two. -/
theorem quotes_isPrefix {quote : Char} {body : List Char}
    (quotes : [quote, quote] <+: body ++ quote :: quote :: quote :: rest) :
    body = [] ∨ body = [quote] ∨ [quote, quote] <+: body := by
  match body with
  | [] => exact .inl rfl
  | [a] =>
    simp at quotes
    exact .inr (.inl (by rw [quotes]))
  | a :: b :: body =>
    simp at quotes
    simp [← quotes.1, ← quotes.2]

/-! ## Strings in double quotes, on several lines -/

theorem longBasicBody_plain (plain : c = '\n' ∨ isPrintable c) (unescaped : c ≠ '\\')
    (noReturn : c ≠ '\r') (goesOn : c = '"' → ¬['"', '"'] <+: text) :
    longBasicBody seen (c :: text) = longBasicBody (c :: seen) text := by
  rw [longBasicBody]
  · rw [if_pos (by simpa using plain)]
  · rintro rest quoted rfl
    exact goesOn quoted (by simp)
  · exact unescaped
  · exact fun rest same => absurd same noReturn

theorem longBasicBody_escape {mark : Char} (other : mark ∉ [' ', '\t', '\n', '\r'])
    (read : escape? (mark :: text) = some (c, after)) :
    longBasicBody seen ('\\' :: mark :: text) = longBasicBody (c :: seen) after := by
  simp only [List.mem_cons, List.not_mem_nil, or_false, not_or] at other
  obtain ⟨noSpace, noTab, noFeed, noReturn⟩ := other
  have goesOn : continued? (mark :: text) = none := by
    have stays : skipSpaces (mark :: text) = mark :: text :=
      List.dropWhile_cons_of_neg (by simp [isSpace, noSpace, noTab])
    unfold continued?
    rw [stays, lineEnd?]
    · rfl
    · exact fun rest same => noFeed (List.cons.inj same).1
    · exact fun rest same => noReturn (List.cons.inj same).1
  rw [longBasicBody]
  split
  · rename_i same
    cases goesOn.symm.trans same
  · split
    · rename_i same
      cases read.symm.trans same
      rfl
    · rename_i none
      cases read.symm.trans none

/-- A quote without an escape is one of the few that may stand in a row. -/
theorem escapedText_of_head {quotes : Nat}
    (head : (escapedText style quotes text).head? = some '"') :
    quotes < quotesAllowed style ∧ ∃ inner, text = '"' :: inner
      ∧ escapedText style quotes text = '"' :: escapedText style (quotes + 1) inner := by
  cases text with
  | nil => cases head
  | cons c inner =>
    by_cases quoted : c = '"'
    · subst quoted
      by_cases many : quotesAllowed style ≤ quotes
      · simp [escapedText, many] at head
      · exact ⟨Nat.lt_of_not_le many, inner, rfl, by simp [escapedText, many]⟩
    · exfalso
      simp only [escapedText, if_neg quoted] at head
      cases escaped : escapeIn style c with
      | none => simp [escaped, quoted] at head
      | some written =>
        obtain ⟨mark, tail, rfl, -, -⟩ := escape?_of_escapeIn escaped
        simp [escaped] at head

theorem eq_nil_of_escapedText {quotes : Nat} (none : escapedText style quotes text = []) :
    text = [] := by
  cases text with
  | nil => rfl
  | cons c inner =>
    exfalso
    unfold escapedText at none
    split at none
    · split at none <;> cases none
    · split at none
      · rename_i escaped
        obtain ⟨mark, tail, rfl, -, -⟩ := escape?_of_escapeIn escaped
        cases none
      · cases none

/-- Behind one quote there are no two more without an escape. -/
theorem not_quotes_isPrefix_escapedText (quotes : Nat) (text : List Char) :
    ¬['"', '"'] <+: escapedText .longBasic (quotes + 1) text := by
  rintro ⟨after, same⟩
  have first : (escapedText .longBasic (quotes + 1) text).head? = some '"' := by simp [← same]
  obtain ⟨-, inner, -, more⟩ := escapedText_of_head first
  have second : (escapedText .longBasic (quotes + 1 + 1) inner).head? = some '"' := by
    rw [more] at same
    simp [← (List.cons.inj same).2]
  have few := (escapedText_of_head second).1
  simp only [quotesAllowed, if_true] at few
  omega

/-- **What was escaped is read back**, also if it ends in quotes. -/
theorem longBasicBody_escapedText (seen : List Char) (quotes : Nat) (text : List Char)
    (other : rest.head? ≠ some '"') :
    longBasicBody seen (escapedText .longBasic quotes text ++ '"' :: '"' :: '"' :: rest)
      = some (String.ofList (seen.reverse ++ text), rest) := by
  induction text generalizing seen quotes with
  | nil => simpa [escapedText, longBasicBody] using closeLong_replicate (Nat.zero_le 2) seen other
  | cons c text ih =>
    have next (quotes : Nat) := ih (c :: seen) quotes
    rw [List.reverse_cons, List.append_assoc, List.singleton_append] at next
    by_cases quoted : c = '"'
    · subst quoted
      by_cases many : quotesAllowed .longBasic ≤ quotes
      · rw [escapedText, if_pos rfl, if_pos many, List.cons_append, List.cons_append,
          longBasicBody_escape (by decide) rfl, next]
      · rw [escapedText, if_pos rfl, if_neg many, List.cons_append]
        by_cases closes : ['"', '"'] <+: escapedText .longBasic (quotes + 1) text
            ++ '"' :: '"' :: '"' :: rest
        · rcases quotes_isPrefix closes with none | one | more
          · obtain rfl := eq_nil_of_escapedText none
            simpa [escapedText, longBasicBody] using
              closeLong_replicate (by decide) seen other (k := 1)
          · obtain ⟨-, inner, rfl, same⟩ := escapedText_of_head (by rw [one]; rfl)
            obtain rfl := eq_nil_of_escapedText (List.cons.inj (same.symm.trans one)).2
            rw [one]
            simpa [longBasicBody] using closeLong_replicate (by decide) seen other (k := 2)
          · cases not_quotes_isPrefix_escapedText quotes text more
        · rw [longBasicBody_plain (.inr (by decide)) (by decide) (by decide) fun _ => closes, next]
    · rw [escapedText, if_neg quoted]
      cases escaped : escapeIn .longBasic c with
      | some written =>
        obtain ⟨mark, tail, rfl, noBreak, read⟩ := escape?_of_escapeIn escaped
        simp only [List.cons_append, List.append_assoc]
        rw [longBasicBody_escape noBreak (read _), next]
      | none =>
        obtain ⟨unescaped, noReturn, plain⟩ := plain_of_escapeIn escaped
        simp only [List.cons_append]
        rw [longBasicBody_plain (plain.symm.imp And.left id) unescaped noReturn
          fun same => absurd same quoted, next]

/-! ## Strings in single quotes -/

theorem literalBody_append (plain : ∀ c ∈ text, isPrintable c) (unquoted : '\'' ∉ text) :
    literalBody seen (text ++ '\'' :: rest) = some (String.ofList (seen.reverse ++ text), rest) := by
  induction text generalizing seen with
  | nil => simp [literalBody]
  | cons c text ih =>
    rw [List.forall_mem_cons] at plain
    rw [List.mem_cons, not_or] at unquoted
    rw [List.cons_append, literalBody, if_pos plain.1, ih plain.2 unquoted.2]
    · simp
    · exact Ne.symm unquoted.1

theorem le_longestRunFrom (mark : Char) (here : Nat) (text : List Char) :
    here ≤ longestRunFrom mark here text := by
  induction text generalizing here with
  | nil => exact Nat.le_refl here
  | cons c text ih =>
    rw [longestRunFrom]
    split
    · exact Nat.le_trans (Nat.le_succ here) (ih (here + 1))
    · exact Nat.le_max_left _ _

/-- What has no run at all of a character does not have the character. -/
theorem not_mem_of_longestRun {mark : Char} {here : Nat}
    (none : longestRunFrom mark here text = 0) : mark ∉ text := by
  induction text generalizing here with
  | nil => exact List.not_mem_nil
  | cons c text ih =>
    rw [longestRunFrom] at none
    split at none
    · have := le_longestRunFrom mark (here + 1) text
      omega
    · rename_i other
      exact List.not_mem_cons_of_ne_of_not_mem (Ne.symm other)
        (ih (Nat.max_eq_zero_iff.mp none).2)

theorem longLiteralBody_plain (plain : c = '\n' ∨ isPrintable c) (noReturn : c ≠ '\r')
    (goesOn : c = '\'' → ¬['\'', '\''] <+: text) :
    longLiteralBody seen (c :: text) = longLiteralBody (c :: seen) text := by
  rw [longLiteralBody]
  · rw [if_pos (by simpa using plain)]
  · rintro rest quoted rfl
    exact goesOn quoted (by simp)
  · exact fun rest same => absurd same noReturn

/-- **A string in long single quotes is read back**, also if it ends in quotes. -/
theorem longLiteralBody_append (seen : List Char) {here : Nat}
    (plain : ∀ c ∈ text, isControl c = false)
    (few : longestRunFrom '\'' here text ≤ 2) (other : rest.head? ≠ some '\'') :
    longLiteralBody seen (text ++ '\'' :: '\'' :: '\'' :: rest)
      = some (String.ofList (seen.reverse ++ text), rest) := by
  induction text generalizing seen here with
  | nil => simpa [longLiteralBody] using closeLong_replicate (Nat.zero_le 2) seen other
  | cons c text ih =>
    rw [List.forall_mem_cons] at plain
    have next {here : Nat} := @ih (c :: seen) here plain.2
    rw [List.reverse_cons, List.append_assoc, List.singleton_append] at next
    have printable : c = '\n' ∨ isPrintable c :=
      Decidable.or_iff_not_imp_left.mpr (isPrintable_of_not_isControl plain.1)
    have noReturn : c ≠ '\r' := by
      rintro rfl
      exact absurd plain.1 (by decide)
    rw [List.cons_append]
    by_cases quoted : c = '\''
    · subst quoted
      rw [longestRunFrom, if_pos rfl] at few
      by_cases closes : ['\'', '\''] <+: text ++ '\'' :: '\'' :: '\'' :: rest
      · rcases quotes_isPrefix closes with rfl | rfl | ⟨more, rfl⟩
        · simpa [longLiteralBody] using closeLong_replicate (by decide) seen other (k := 1)
        · simpa [longLiteralBody] using closeLong_replicate (by decide) seen other (k := 2)
        · have := le_longestRunFrom '\'' (here + 1 + 1 + 1) more
          simp only [List.cons_append, List.nil_append, longestRunFrom, if_true] at few
          omega
      · rw [longLiteralBody_plain printable noReturn fun _ => closes, next few]
    · rw [longestRunFrom, if_neg quoted] at few
      rw [longLiteralBody_plain printable noReturn fun same => absurd same quoted,
        next (Nat.le_trans (Nat.le_max_right _ _) few)]

/-! ## Strings -/

/-- **What each kind of quotes is chosen for**: single quotes have no escapes, so they are chosen
only if they are not needed. -/
theorem choose_cases (text : List Char) :
    (StringStyle.choose text = .basic ∨ StringStyle.choose text = .longBasic)
      ∨ (∀ c ∈ text, isControl c = false)
        ∧ (StringStyle.choose text = .literal ∧ '\'' ∉ text ∧ '\n' ∉ text ∧ text ≠ []
          ∨ StringStyle.choose text = .longLiteral ∧ longestRun '\'' text ≤ 2) := by
  unfold StringStyle.choose
  simp only
  split
  · exact .inl (.inl rfl)
  · rename_i notBasic
    split
    · rename_i literal
      simp only [Bool.and_eq_true, Bool.not_eq_true', decide_eq_true_eq, List.any_eq_false,
        Bool.not_eq_true] at literal
      refine .inr ⟨literal.1.1,
        .inl ⟨rfl, not_mem_of_longestRun literal.1.2, by simpa using literal.2, ?_⟩⟩
      rintro rfl
      exact notBasic (by decide)
    · split
      · exact .inl (.inr rfl)
      · split
        · rename_i long
          simp only [Bool.and_eq_true, Bool.not_eq_true', decide_eq_true_eq, List.any_eq_false,
            Bool.not_eq_true] at long
          exact .inr ⟨long.1, .inr ⟨rfl, long.2⟩⟩
        · split
          · exact .inl (.inr rfl)
          · exact .inl (.inl rfl)

/-- What an escaped text begins with. -/
theorem head_escapedText {quotes : Nat}
    (head : (escapedText style quotes text).head? = some c) :
    c = '"' ∨ c = '\\' ∨ c ∈ text ∧ c ≠ '\r' := by
  cases text with
  | nil => cases head
  | cons d text =>
    unfold escapedText at head
    split at head
    · split at head
      · cases head
        exact .inr (.inl rfl)
      · cases head
        exact .inl rfl
    · split at head
      · rename_i escaped
        obtain ⟨mark, tail, rfl, -, -⟩ := escape?_of_escapeIn escaped
        cases head
        exact .inr (.inl rfl)
      · rename_i escaped
        cases head
        exact .inr (.inr ⟨List.mem_cons_self, (plain_of_escapeIn escaped).2.1⟩)

/-- What begins with a quote but not with long ones is a string on one line. -/
theorem string?_eq_lineString? {quote : Char} {body : List Char} (first : body.head? ≠ some quote)
    (other : rest.head? ≠ some quote) :
    string? (quote :: (body ++ quote :: rest)) = lineString? (quote :: (body ++ quote :: rest)) := by
  have single : ∀ more, body ++ quote :: rest ≠ quote :: quote :: more := by
    intro more same
    cases body with
    | nil => simp_all
    | cons c body => simp_all
  unfold string?
  split
  · rename_i same
    obtain ⟨rfl, same⟩ := List.cons.inj same
    exact absurd same (single _)
  · rename_i same
    obtain ⟨rfl, same⟩ := List.cons.inj same
    exact absurd same (single _)
  · rfl

/-- The end of a line is left out behind long quotes, and what begins otherwise stays. -/
theorem dropLineEnd_opening {newline : Prop} [Decidable newline]
    (plain : ¬newline → text.head? ∉ [some '\n', some '\r']) :
    dropLineEnd ((if newline then ['\n'] else []) ++ text) = text := by
  by_cases opens : newline
  · rw [if_pos opens]
    rfl
  · have plain := plain opens
    rw [if_neg opens, List.nil_append]
    unfold dropLineEnd lineEnd?
    split <;> simp_all

/-- A string in long quotes begins with the end of no line if its text does not. -/
theorem head_append_quotes {quote : Char} {body : List Char} (mark : quote ∉ ['\n', '\r'])
    (plain : ∀ c, body.head? = some c → c ∉ ['\n', '\r']) :
    (body ++ quote :: rest).head? ∉ [some '\n', some '\r'] := by
  cases body with
  | nil => simpa using mark
  | cons c body => simpa using plain c rfl

/-- **Every string is read back**, whatever is behind it but another quote. -/
theorem string?_stringText (text : List Char) (other : rest.head? ∉ [some '"', some '\'']) :
    string? (stringText text ++ rest) = some (String.ofList text, rest) := by
  simp only [List.mem_cons, List.not_mem_nil, or_false, not_or] at other
  obtain ⟨noDouble, noSingle⟩ := other
  rcases choose_cases text with
    (basic | long) | ⟨plain, ⟨literal, unquoted, oneLine, nonempty⟩ | ⟨long, few⟩⟩
  · have first : (escapedText .basic 0 text).head? ≠ some '"' := fun head =>
      absurd (escapedText_of_head head).1 (by decide)
    have whole : stringText text ++ rest = '"' :: (escapedText .basic 0 text ++ '"' :: rest) := by
      simp [stringText, basic, StringStyle.isLong, StringStyle.delimiter, bodyText]
    rw [whole, string?_eq_lineString? first noDouble]
    exact basicBody_escapedText [] 0 text rest
  · have whole : stringText text ++ rest = '"' :: '"' :: '"' ::
        ((if '\n' ∈ text then ['\n'] else [])
          ++ (escapedText .longBasic 0 text ++ '"' :: '"' :: '"' :: rest)) := by
      by_cases newline : '\n' ∈ text <;>
        simp [stringText, long, newline, StringStyle.isLong, StringStyle.delimiter, bodyText]
    rw [whole, string?, dropLineEnd_opening fun oneLine => head_append_quotes (by decide) ?_]
    · exact longBasicBody_escapedText [] 0 text noDouble
    · intro c head
      rcases head_escapedText head with rfl | rfl | ⟨member, noReturn⟩
      · decide
      · decide
      · have noFeed : c ≠ '\n' := fun feed => oneLine (feed ▸ member)
        simp [noFeed, noReturn]
  · have first : text.head? ≠ some '\'' := fun head => unquoted (List.mem_of_head? head)
    have whole : stringText text ++ rest = '\'' :: (text ++ '\'' :: rest) := by
      simp [stringText, literal, StringStyle.isLong, StringStyle.delimiter, bodyText]
    have printable : ∀ c ∈ text, isPrintable c := fun c member =>
      isPrintable_of_not_isControl (plain c member) fun newline => oneLine (newline ▸ member)
    rw [whole, string?_eq_lineString? first noSingle]
    exact literalBody_append printable unquoted
  · have whole : stringText text ++ rest = '\'' :: '\'' :: '\'' ::
        ((if '\n' ∈ text then ['\n'] else []) ++ (text ++ '\'' :: '\'' :: '\'' :: rest)) := by
      by_cases newline : '\n' ∈ text <;>
        simp [stringText, long, newline, StringStyle.isLong, StringStyle.delimiter, bodyText]
    rw [whole, string?, dropLineEnd_opening fun oneLine => head_append_quotes (by decide) ?_]
    · exact longLiteralBody_append [] plain few noSingle
    · rintro c head
      have member := List.mem_of_head? head
      have noFeed : c ≠ '\n' := fun feed => oneLine (feed ▸ member)
      have noReturn : c ≠ '\r' := by
        rintro rfl
        exact absurd (plain _ member) (by decide)
      simp [noFeed, noReturn]

/-! ## Keys -/

/-- **Every key is read back**, bare or quoted, whatever is behind it that no bare key has. -/
theorem key?_keyText (key : String) (other : ∀ c, rest.head? = some c → isBareKeyChar c = false) :
    key? (keyText key ++ rest) = some (key, rest) := by
  unfold keyText
  split
  · rename_i bare
    simp only [Bool.and_eq_true, Bool.not_eq_true', List.all_eq_true] at bare
    obtain ⟨nonempty, bare⟩ := bare
    have stops : rest.takeWhile isBareKeyChar = [] ∧ rest.dropWhile isBareKeyChar = rest := by
      cases rest with
      | nil => exact ⟨rfl, rfl⟩
      | cons d rest => simp [other d rfl]
    cases letters : key.toList with
    | nil => simp_all
    | cons c tail =>
      rw [letters, List.forall_mem_cons] at bare
      have whole : String.ofList (c :: tail) = key := by rw [← letters, String.ofList_toList]
      rw [List.cons_append, key?, if_pos bare.1, List.takeWhile_append_of_pos bare.2,
        List.dropWhile_append_of_pos bare.2, stops.1, stops.2, List.append_nil, whole]
  · have quoted := basicBody_escapedText [] 0 key.toList rest
    rw [List.reverse_nil, List.nil_append, String.ofList_toList] at quoted
    simpa [key?, lineString?, show isBareKeyChar '"' = false by decide] using quoted

end GuestSupervisor.Toml
