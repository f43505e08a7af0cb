import AndroidResources.Json.Printer
import AndroidResources.Json.Token
import AndroidResources.Proofs.WrittenNumbers

/-!
# Words of JSON texts

A text between quotes, a number or a sign is read from the front of what follows as the word that it was written for
(`Json.Spelt`), where a number needs something behind it that cannot belong to it. So a text that spells words one after
the other, with or without blanks between them, is read as these words (`Json.tokens?_of_words`).
-/
namespace AndroidResources.Json

/-! ## Text -/

theorem pieces?_unit {n : Nat} (small : n < 16 ^ 4) (rest : List Char) :
    pieces? ('\\' :: 'u' :: Text.hexWord 4 n ++ rest) = (pieces? rest).map fun (ps,rest) => (.unit n :: ps,rest) := by
  have number := Text.hexNumber?_hexWord (by decide : 0 < 4) n
  rw [Nat.mod_eq_of_lt small] at number
  obtain ⟨a,b,c,d,digits⟩ : ∃ a b c d, Text.hexWord 4 n = [a,b,c,d] := ⟨_,_,_,_,rfl⟩
  rw [digits] at number ⊢
  simp only [List.cons_append,List.nil_append,pieces?,number]
  cases pieces? rest <;> rfl

theorem pieces?_letter {c letter : Char} (known : escaped? letter = some c) (rest : List Char) :
    pieces? (['\\',letter] ++ rest) = (pieces? rest).map fun (ps,rest) => (.char c :: ps,rest) := by
  rw [List.cons_append,List.singleton_append,pieces?,known]
  · cases pieces? rest <;> rfl
  · rintro _ _ _ _ _ rfl
    exact nomatch known

/-- A unit that is no half of a pair is a character of its own, whatever follows. -/
theorem assemble?_unit {n : Nat} (small : n < 0xd800) (ps : List Piece) :
    assemble? (.unit n :: ps) = (assemble? ps).map (Char.ofNat n :: ·) := by
  have high : ¬ (0xd800 ≤ n ∧ n < 0xdc00) := by omega
  have low : ¬ (0xdc00 ≤ n ∧ n < 0xe000) := by omega
  have half : ¬ (0xd800 ≤ n ∧ n < 0xe000) := by omega
  rcases ps with _ | ⟨_ | _,_⟩ <;> simp only [assemble?,high,low,half,if_false]

/-- A written character is one piece of a text, and is put together again from it. -/
theorem exists_piece (c : Char) : ∃ p, (∀ rest, pieces? (escapedChar c ++ rest) =
      (pieces? rest).map fun (ps,rest) => (p :: ps,rest)) ∧
    ∀ ps, assemble? (p :: ps) = (assemble? ps).map (c :: ·) := by
  unfold escapedChar
  split
  -- the seven characters that have a letter
  iterate 7 exact ⟨.char _,pieces?_letter rfl,fun _ => by rw [assemble?]⟩
  split
  next control =>
    refine ⟨.unit c.toNat,pieces?_unit (by omega),fun ps => ?_⟩
    rw [assemble?_unit (by omega),Char.ofNat_toNat]
  next =>
    refine ⟨.char c,fun rest => ?_,fun ps => by simp [assemble?]⟩
    rw [List.singleton_append,pieces?.eq_def]
    split <;> simp_all

/-- The pieces of a written text are the text. -/
theorem exists_pieces (cs : List Char) : ∃ ps,
    (∀ rest, pieces? (cs.flatMap escapedChar ++ '"' :: rest) = some (ps,rest)) ∧ assemble? ps = some cs := by
  induction cs with
  | nil => exact ⟨[],fun rest => by simp [pieces?],by simp [assemble?]⟩
  | cons c cs ih =>
    obtain ⟨p,read,put⟩ := exists_piece c
    obtain ⟨ps,others,assembled⟩ := ih
    refine ⟨p :: ps,fun rest => ?_,by rw [put,assembled]; rfl⟩
    rw [List.flatMap_cons,List.append_assoc,read,others]
    rfl

/-! ## Numbers -/

/-- Whether what follows a number cannot belong to it. -/
def Stops (rest : List Char) : Prop :=
  ∀ c ∈ rest.head?, ¬ c.isDigit ∧ c ≠ '.' ∧ c ≠ 'e' ∧ c ≠ 'E'

theorem Stops.no_digit {rest : List Char} (stops : Stops rest) : ∀ c ∈ rest.head?, ¬ c.isDigit :=
  fun c first => (stops c first).1

theorem Stops.no_fraction {rest : List Char} (stops : Stops rest) : fraction? rest = some ([],rest) := by
  unfold fraction?
  split
  next rest => exact absurd rfl (stops '.' rfl).2.1
  next => rfl

theorem Stops.no_exponent {rest : List Char} (stops : Stops rest) : exponent? rest = some (none,rest) := by
  cases rest with
  | nil => rfl
  | cons c rest =>
    have ⟨_,_,small,large⟩ := stops c rfl
    simp [exponent?,small,large]

theorem numberToken?_integer {n : Nat} {negative : Bool} {rest : List Char} (near : isHuge n 0 = false)
    (sign : negative → n ≠ 0) (stops : Stops rest) :
    numberToken? negative ((Nat.repr n).toList ++ rest) = some (.integer (if negative then -n else n),rest) := by
  have noZero : ¬ (negative = true ∧ n = 0) := fun ⟨isNegative,zero⟩ => sign isNegative zero
  simp only [numberToken?,Text.leadingDecimal?_repr n stops.no_digit,stops.no_fraction,stops.no_exponent,
    Option.bind_eq_bind,Option.bind_some]
  simp [near,noZero]

theorem exponent?_written (exponent : Int) {rest : List Char} (stops : Stops rest) :
    exponent? ('e' :: ((Text.signedDecimal exponent).toList ++ rest)) = some (some exponent,rest) := by
  obtain ⟨taken,dropped⟩ := Text.repr_run exponent.natAbs stops.no_digit
  have value := Text.ofDigitChars_repr exponent.natAbs
  have nonempty : (Nat.repr exponent.natAbs).toList = [] → False := by simp [Nat.toDigits_ne_nil]
  obtain ⟨negative,signed⟩ | ⟨nonneg,unsigned,minus,plus⟩ := Text.signedDecimal_cases exponent rest
  · have isExponent : -(exponent.natAbs : Int) = exponent := by omega
    rw [signed]
    simp only [exponent?,taken,dropped,value,isExponent]
    simp
  · have isExponent : (exponent.natAbs : Int) = exponent := by omega
    rw [unsigned]
    simp only [exponent?,taken,dropped,value,isExponent]
    simp

theorem numberToken?_decimal (negative : Bool) (significand : Nat) (exponent : Int) {rest : List Char}
    (stops : Stops rest) :
    numberToken? negative ((Nat.repr significand).toList ++ 'e' :: ((Text.signedDecimal exponent).toList ++ rest)) =
      some (if isHuge significand exponent then .hugeNumber else .decimal negative significand exponent,rest) := by
  have noDigit : ∀ c ∈ ('e' :: ((Text.signedDecimal exponent).toList ++ rest)).head?, ¬ c.isDigit := by simp
  have noFraction (cs : List Char) : fraction? ('e' :: cs) = some ([],'e' :: cs) := rfl
  simp only [numberToken?,Text.leadingDecimal?_repr significand noDigit,noFraction,exponent?_written exponent stops,
    Option.bind_eq_bind,Option.bind_some]
  cases huge : isHuge significand exponent <;> simp [huge]

/-! ## Words -/

/-- Whether a number is not beyond double precision. -/
def Token.isNear : Token → Bool
  | .integer n => !isHuge n.natAbs 0
  | .decimal _ significand exponent => !isHuge significand exponent
  | _ => true

/-- A text is read from the front of what follows as a word. -/
structure Spelt (text : List Char) (token : Token) (rest : List Char) : Prop where
  front : ∃ c cs, text = c :: cs ∧ isBlank c = false
  read : token? (text ++ rest) = some (token,rest)

variable {rest : List Char}

theorem spelt_text (s : String) (rest : List Char) : Spelt (textLiteral s).toList (.text s) rest := by
  obtain ⟨ps,read,assembled⟩ := exists_pieces s.toList
  have text : (textLiteral s).toList = '"' :: (s.toList.flatMap escapedChar ++ ['"']) := by simp [textLiteral]
  refine ⟨⟨_,_,text,by decide⟩,?_⟩
  rw [text,List.cons_append,List.append_assoc]
  simp only [token?,textToken?,List.singleton_append,read,assembled,Option.map_some,String.ofList_toList]

/-- What starts with a digit is a number without a sign. -/
theorem token?_of_digit {c : Char} {cs : List Char} (isDigit : c.isDigit) :
    token? (c :: cs) = numberToken? false (c :: cs) := by
  unfold token?
  split
  case h_12 => rfl
  all_goals
    obtain ⟨rfl,-⟩ := List.cons.inj ‹c :: cs = _›
    exact absurd isDigit (by decide)

theorem isBlank_of_digit {c : Char} (isDigit : c.isDigit) : isBlank c = false := by
  have differs : c ≠ ' ' ∧ c ≠ '\n' ∧ c ≠ '\t' ∧ c ≠ '\r' := by
    refine ⟨?_,?_,?_,?_⟩ <;> rintro rfl <;> exact absurd isDigit (by decide)
  simp [isBlank,differs]

/-- A number is spelt by its digits, behind a sign if it is negative. -/
theorem spelt_number {n : Nat} {cs : List Char} {token : Token} (negative : Bool)
    (read : numberToken? negative ((Nat.repr n).toList ++ cs ++ rest) = some (token,rest)) :
    Spelt ((if negative then ['-'] else []) ++ (Nat.repr n).toList ++ cs) token rest := by
  obtain ⟨c,digits,written,isDigit⟩ := Text.repr_cons n
  rw [written] at read ⊢
  cases negative with
  | true => exact ⟨⟨_,_,rfl,by decide⟩,read⟩
  | false => exact ⟨⟨_,_,rfl,isBlank_of_digit isDigit⟩,(token?_of_digit isDigit).trans read⟩

theorem spelt_integer {n : Int} (near : (Token.integer n).isNear) (stops : Stops rest) :
    Spelt (Text.signedDecimal n).toList (.integer n) rest := by
  have near : isHuge n.natAbs 0 = false := by simpa [Token.isNear] using near
  cases n with
  | ofNat n =>
    have read : numberToken? false ((Nat.repr n).toList ++ rest) = some (.integer n,rest) :=
      numberToken?_integer near (by simp) stops
    rw [← List.append_nil (Text.signedDecimal _).toList]
    exact spelt_number false (by simpa using read)
  | negSucc n =>
    have read : numberToken? true ((Nat.repr (n + 1)).toList ++ rest) = some (.integer (.negSucc n),rest) :=
      numberToken?_integer (n := n + 1) near (by simp) stops
    have text : (Text.signedDecimal (.negSucc n)).toList = ['-'] ++ (Nat.repr (n + 1)).toList ++ [] := by
      simp [Text.signedDecimal]
    rw [text]
    exact spelt_number true (by simpa using read)

/-- A number with an exponent is spelt by its literal, and one beyond double precision is no number. -/
theorem spelt_decimal (negative : Bool) (significand : Nat) (exponent : Int) (stops : Stops rest) :
    Spelt (decimalLiteral negative significand exponent).toList
      (if isHuge significand exponent then .hugeNumber else .decimal negative significand exponent) rest := by
  have read := numberToken?_decimal negative significand exponent stops
  have text : (decimalLiteral negative significand exponent).toList = (if negative then ['-'] else []) ++
      (Nat.repr significand).toList ++ 'e' :: (Text.signedDecimal exponent).toList := by
    cases negative <;> simp [decimalLiteral]
  rw [text]
  exact spelt_number negative (by simpa using read)

/-! ## Texts -/

/-- A text is a run of words, with blanks between them where they are not needed. -/
inductive Words : List Char → List Token → Prop
  | nil : Words [] []
  | blank {c : Char} {cs : List Char} {tokens : List Token} : isBlank c → Words cs tokens → Words (c :: cs) tokens
  | word {text rest : List Char} {token : Token} {tokens : List Token} : Spelt text token rest → Words rest tokens →
      Words (text ++ rest) (token :: tokens)

theorem Words.blanks {blanks cs : List Char} {tokens : List Token} (all : ∀ c ∈ blanks, isBlank c)
    (words : Words cs tokens) : Words (blanks ++ cs) tokens := by
  induction blanks with
  | nil => exact words
  | cons c blanks ih => exact .blank (all c List.mem_cons_self) (ih fun d mem => all d (.tail c mem))

/-- Words are read with a step for each, and none of them is empty. -/
theorem tokensWithin?_of_words {cs : List Char} {tokens : List Token} (words : Words cs tokens) {fuel : Nat}
    (enough : cs.length ≤ fuel) : tokensWithin? fuel cs = some tokens := by
  induction words generalizing fuel with
  | nil => simp [tokensWithin?]
  | @blank c cs tokens isBlank _ ih =>
    have skipped : tokensWithin? fuel (c :: cs) = tokensWithin? fuel cs := by
      unfold tokensWithin?
      rw [List.dropWhile_cons_of_pos isBlank]
    rw [skipped]
    exact ih (by simp at enough; omega)
  | @word text rest token tokens spelt _ ih =>
    obtain ⟨⟨c,cs,rfl,front⟩,read⟩ := spelt
    cases fuel with
    | zero => simp at enough
    | succ fuel =>
      have others : tokensWithin? fuel rest = some tokens := ih (by simp at enough; omega)
      unfold tokensWithin?
      rw [List.cons_append,List.dropWhile_cons_of_neg (by simp [front])]
      rw [List.cons_append] at read
      simp only [read,others,Option.map_some]

theorem tokens?_of_words {s : String} {tokens : List Token} (words : Words s.toList tokens) : tokens? s = some tokens :=
  tokensWithin?_of_words words le_rfl

end AndroidResources.Json
