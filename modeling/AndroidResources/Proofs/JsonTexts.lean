import AndroidResources.Json.Reader
import AndroidResources.Proofs.JsonWords

/-!
# JSON texts

A value is written as a list of words (`Json.words`), without blanks or over several lines, and read back from them: so
both texts of a value stand for it, if its numbers are not beyond double precision (`Json.parse?_written`).
-/
namespace AndroidResources.Json

/-! ## The words of a value -/

mutual

/-- The words that a value is written with. -/
def words : Json → List Token
  | .null => [.null]
  | .bool b => [.bool b]
  | .integer n => [.integer n]
  | .decimal negative significand exponent => [.decimal negative significand exponent]
  | .string s => [.text s]
  | .array items => .openArray :: itemWords items
  | .object members => .openObject :: memberWords members
  | .malformed => [.hugeNumber]

/-- The words of items up to the end of their array. -/
def itemWords : List Json → List Token
  | [] => [.closeArray]
  | [item] => words item ++ [.closeArray]
  | item :: rest => words item ++ .comma :: itemWords rest

/-- The words of members up to the end of their object. -/
def memberWords : List (String × Json) → List Token
  | [] => [.closeObject]
  | [(name,value)] => .text name :: .colon :: (words value ++ [.closeObject])
  | (name,value) :: rest => .text name :: .colon :: (words value ++ .comma :: memberWords rest)

end

/-- Whether no number in a value is beyond double precision. -/
def IsNear (j : Json) : Prop :=
  ∀ token ∈ words j, token.isNear

/-! ## Reading words -/

/-- A value starts with a word that ends nothing. -/
theorem exists_words (j : Json) : ∃ token rest, words j = token :: rest ∧ token ≠ .closeArray := by
  cases j <;> exact ⟨_,_,by rw [words],by simp⟩

theorem exists_itemWords (item : Json) (items : List Json) :
    ∃ token rest, itemWords (item :: items) = token :: rest ∧ token ≠ .closeArray := by
  obtain ⟨token,rest,isWords,more⟩ := exists_words item
  cases items <;> exact ⟨token,_,by simp only [itemWords,isWords]; rfl,more⟩

theorem exists_memberWords (member : String × Json) (members : List (String × Json)) :
    ∃ rest, memberWords (member :: members) = .text member.1 :: rest := by
  cases members <;> exact ⟨_,by simp only [memberWords]; rfl⟩

theorem value?_openArray {fuel : Nat} {token : Token} {rest : List Token} (more : token ≠ .closeArray) :
    value? (fuel + 1) (.openArray :: token :: rest) =
      (items? fuel (token :: rest)).map fun (items,rest) => (.array items,rest) := by
  cases token <;> first | rfl | exact absurd rfl more

theorem value?_openObject {fuel : Nat} {name : String} {rest : List Token} :
    value? (fuel + 1) (.openObject :: .text name :: rest) =
      (members? fuel (.text name :: rest)).map fun (members,rest) => ((members.map Json.object).getD .malformed,rest) :=
  rfl

-- By recursion on the value: every word leaves fuel for two steps, and a list takes one for itself and one for its
-- first item.
mutual

theorem value?_words : ∀ (j : Json) (rest : List Token) (fuel : Nat), 2 * (words j).length ≤ fuel →
    value? fuel (words j ++ rest) = some (j,rest)
  | j, rest, 0, enough => by
    obtain ⟨_,_,isWords,_⟩ := exists_words j
    simp [isWords] at enough
  | .null, rest, fuel + 1, _ => rfl
  | .bool _, rest, fuel + 1, _ => rfl
  | .integer _, rest, fuel + 1, _ => rfl
  | .decimal _ _ _, rest, fuel + 1, _ => rfl
  | .string _, rest, fuel + 1, _ => rfl
  | .malformed, rest, fuel + 1, _ => rfl
  | .array [], rest, fuel + 1, _ => rfl
  | .object [], rest, fuel + 1, _ => rfl
  | .array (item :: items), rest, fuel + 1, enough => by
    have read := items?_words item items rest fuel (by simp [words] at enough; omega)
    obtain ⟨token,others,isWords,more⟩ := exists_itemWords item items
    rw [isWords,List.cons_append] at read
    rw [words,isWords,List.cons_append,List.cons_append,value?_openArray more,read]
    rfl
  | .object (member :: members), rest, fuel + 1, enough => by
    have read := members?_words member members rest fuel (by simp [words] at enough; omega)
    obtain ⟨others,isWords⟩ := exists_memberWords member members
    rw [isWords,List.cons_append] at read
    rw [words,isWords,List.cons_append,List.cons_append,value?_openObject,read]
    rfl

theorem items?_words : ∀ (item : Json) (items : List Json) (rest : List Token) (fuel : Nat),
    2 * (itemWords (item :: items)).length ≤ fuel + 1 →
    items? fuel (itemWords (item :: items) ++ rest) = some (item :: items,rest)
  | item, items, rest, 0, enough => by
    cases items <;> simp [itemWords] at enough <;> omega
  | item, [], rest, fuel + 1, enough => by
    have read := value?_words item (.closeArray :: rest) fuel (by simp [itemWords] at enough; omega)
    rw [itemWords,List.append_assoc,List.singleton_append,items?,read]
  | item, other :: items, rest, fuel + 1, enough => by
    have read := value?_words item (.comma :: (itemWords (other :: items) ++ rest)) fuel
      (by simp [itemWords] at enough; omega)
    have others := items?_words other items rest fuel (by simp [itemWords] at enough; omega)
    simp only [itemWords,List.append_assoc,List.cons_append,items?,read,others,Option.map_some]

theorem members?_words : ∀ (member : String × Json) (members : List (String × Json)) (rest : List Token)
    (fuel : Nat), 2 * (memberWords (member :: members)).length ≤ fuel + 1 →
    members? fuel (memberWords (member :: members) ++ rest) = some (some (member :: members),rest)
  | member, members, rest, 0, enough => by
    cases members <;> simp [memberWords] at enough <;> omega
  | (name,value), [], rest, fuel + 1, enough => by
    have read := value?_words value (.closeObject :: rest) fuel (by simp [memberWords] at enough; omega)
    rw [memberWords,List.cons_append,List.cons_append,List.append_assoc,List.singleton_append,members?,read]
  | (name,value), other :: members, rest, fuel + 1, enough => by
    have read := value?_words value (.comma :: (memberWords (other :: members) ++ rest)) fuel
      (by simp [memberWords] at enough; omega)
    have others := members?_words other members rest fuel (by simp [memberWords] at enough; omega)
    simp only [memberWords,List.cons_append,List.append_assoc,members?,read,others,Option.map_some]

end

theorem ofTokens?_words (j : Json) : ofTokens? (words j) = some j := by
  have read := value?_words j [] _ le_rfl
  rw [List.append_nil] at read
  simp only [ofTokens?,read]

/-! ## Writing words -/

/-- A text writes words whatever follows it, if no number among them is beyond double precision and what follows does
    not carry a last number on. -/
def Writes (text : List Char) (tokens : List Token) : Prop :=
  (∀ token ∈ tokens, token.isNear) →
    ∀ rest others, Stops rest → Words rest others → Words (text ++ rest) (tokens ++ others)

theorem Writes.of_spelt {text : List Char} {token : Token}
    (spelt : token.isNear → ∀ rest, Stops rest → Spelt text token rest) : Writes text [token] :=
  fun near _ _ stops words => .word (spelt (near token List.mem_cons_self) _ stops) words

theorem Writes.append {text text' : List Char} {tokens tokens' : List Token} (first : Writes text tokens)
    (second : Writes text' tokens') (stops : text' ≠ [] ∧ Stops text') :
    Writes (text ++ text') (tokens ++ tokens') := by
  intro near rest others ends words
  obtain ⟨nearFirst,nearSecond⟩ := List.forall_mem_append.mp near
  have stops : Stops (text' ++ rest) := by
    obtain ⟨nonempty,stops⟩ := stops
    obtain ⟨c,cs,rfl⟩ := List.exists_cons_of_ne_nil nonempty
    exact stops
  rw [List.append_assoc,List.append_assoc]
  exact first nearFirst _ _ stops (second nearSecond _ _ ends words)

theorem Writes.blanks {blanks text : List Char} {tokens : List Token} (all : ∀ c ∈ blanks, isBlank c)
    (writes : Writes text tokens) : Writes (blanks ++ text) tokens := by
  intro near rest others stops words
  rw [List.append_assoc]
  exact (writes near rest others stops words).blanks all

/-- A sign is a word of one character. -/
theorem Writes.sign {c : Char} {token : Token} {text : List Char} {tokens : List Token} (writes : Writes text tokens)
    (front : isBlank c = false) (read : ∀ rest, token? (c :: rest) = some (token,rest)) :
    Writes (c :: text) (token :: tokens) := by
  intro near rest others stops words
  have spelt : Spelt [c] token (text ++ rest) := ⟨⟨c,[],rfl,front⟩,read _⟩
  have followed := writes (fun token mem => near token (.tail _ mem)) rest others stops words
  exact (Words.word spelt followed :)

theorem writes_nil : Writes [] [] :=
  fun _ _ _ _ words => words

theorem writes_text (s : String) : Writes (textLiteral s).toList [.text s] :=
  .of_spelt fun _ rest _ => spelt_text s rest

/-- A name in front of a value, with blanks between them. -/
theorem Writes.member {text : List Char} {tokens : List Token} (writes : Writes text tokens) (name : String)
    (blanks : List Char) (all : ∀ c ∈ blanks, isBlank c) :
    Writes ((textLiteral name).toList ++ ':' :: (blanks ++ text)) (.text name :: .colon :: tokens) :=
  (writes_text name).append ((writes.blanks all).sign (by decide) fun _ => rfl) (by simp [Stops])

theorem writes_integer (n : Int) : Writes (Text.signedDecimal n).toList [.integer n] :=
  .of_spelt fun near _ stops => spelt_integer near stops

theorem writes_decimal (negative : Bool) (significand : Nat) (exponent : Int) :
    Writes (decimalLiteral negative significand exponent).toList [.decimal negative significand exponent] := by
  refine .of_spelt fun near rest stops => ?_
  have spelt := spelt_decimal negative significand exponent stops
  have near : isHuge significand exponent = false := by simpa [Token.isNear] using near
  rwa [near] at spelt

/-- The text for what denotes nothing is a number beyond double precision. -/
theorem writes_malformed : Writes "1e999".toList [.hugeNumber] :=
  .of_spelt fun _ _ stops => spelt_decimal false 1 999 stops

theorem writes_null : Writes "null".toList [.null] :=
  .of_spelt fun _ _ _ => ⟨⟨_,_,rfl,by decide⟩,rfl⟩

theorem writes_bool (b : Bool) : Writes (if b then "true" else "false").toList [.bool b] :=
  .of_spelt fun _ _ _ => by cases b <;> exact ⟨⟨_,_,rfl,by decide⟩,rfl⟩

/-- What closes an array. -/
theorem writes_closeArray : Writes [']'] [.closeArray] :=
  writes_nil.sign (by decide) fun _ => rfl

/-- What closes an object. -/
theorem writes_closeObject : Writes ['\x7d'] [.closeObject] :=
  writes_nil.sign (by decide) fun _ => rfl

/-! ## Texts of a value -/

mutual

theorem writes_compact : ∀ j : Json, Writes (compact j).toList (words j)
  | .null => writes_null
  | .bool b => writes_bool b
  | .integer n => writes_integer n
  | .decimal negative significand exponent => writes_decimal negative significand exponent
  | .string s => writes_text s
  | .malformed => writes_malformed
  | .array items => by
    have writes := (writes_compactItems items).sign (c := '[') (by decide) fun _ => rfl
    simpa [compact,words] using writes
  | .object members => by
    have writes := (writes_compactMembers members).sign (c := '\x7b') (by decide) fun _ => rfl
    simpa [compact,words] using writes

theorem writes_compactItems : ∀ items : List Json, Writes ((compactItems items).toList ++ [']']) (itemWords items)
  | [] => writes_closeArray
  | [item] => by
    simpa [compactItems,itemWords] using (writes_compact item).append writes_closeArray (by simp [Stops])
  | item :: other :: items => by
    have others := (writes_compactItems (other :: items)).sign (c := ',') (by decide) fun _ => rfl
    simpa [compactItems,itemWords] using (writes_compact item).append others (by simp [Stops])

theorem writes_compactMembers : ∀ members : List (String × Json),
    Writes ((compactMembers members).toList ++ ['\x7d']) (memberWords members)
  | [] => writes_closeObject
  | [(name,value)] => by
    have writes := (writes_compact value).append writes_closeObject (by simp [Stops])
    simpa [compactMembers,memberWords] using writes.member name [] (by simp)
  | (name,value) :: other :: members => by
    have others := (writes_compactMembers (other :: members)).sign (c := ',') (by decide) fun _ => rfl
    have writes := (writes_compact value).append others (by simp [Stops])
    simpa [compactMembers,memberWords] using writes.member name [] (by simp)

end

theorem blank_newLine (level : Nat) : ∀ c ∈ (newLine level).toList, isBlank c := by
  simp [newLine,isBlank]

theorem stops_newLine (level : Nat) (cs : List Char) :
    (newLine level).toList ++ cs ≠ [] ∧ Stops ((newLine level).toList ++ cs) := by
  simp [newLine,Stops]

mutual

theorem writes_prettyAt : ∀ (level : Nat) (j : Json), Writes (prettyAt level j).toList (words j)
  | level, .null => writes_null
  | level, .bool b => writes_bool b
  | level, .integer n => writes_integer n
  | level, .decimal negative significand exponent => writes_decimal negative significand exponent
  | level, .string s => writes_text s
  | level, .malformed => writes_malformed
  | level, .array [] => writes_compact (.array [])
  | level, .object [] => writes_compact (.object [])
  | level, .array (item :: items) => by
    have writes := (writes_prettyItems (level + 1) level (item :: items)).sign (c := '[') (by decide) fun _ => rfl
    simpa [prettyAt,words] using writes
  | level, .object (member :: members) => by
    have members := writes_prettyMembers (level + 1) level (member :: members)
    have writes := members.sign (c := '\x7b') (by decide) fun _ => rfl
    simpa [prettyAt,words] using writes

theorem writes_prettyItems : ∀ (level outer : Nat) (items : List Json),
    Writes ((prettyItems level items).toList ++ ((newLine outer).toList ++ [']'])) (itemWords items)
  | level, outer, [] => by
    simpa [prettyItems,itemWords] using writes_closeArray.blanks (blank_newLine outer)
  | level, outer, [item] => by
    have closed := writes_closeArray.blanks (blank_newLine outer)
    have writes := (writes_prettyAt level item).append closed (stops_newLine outer _)
    simpa [prettyItems,itemWords] using writes.blanks (blank_newLine level)
  | level, outer, item :: other :: items => by
    have others := (writes_prettyItems level outer (other :: items)).sign (c := ',') (by decide) fun _ => rfl
    have writes := (writes_prettyAt level item).append others (by simp [Stops])
    simpa [prettyItems,itemWords] using writes.blanks (blank_newLine level)

theorem writes_prettyMembers : ∀ (level outer : Nat) (members : List (String × Json)),
    Writes ((prettyMembers level members).toList ++ ((newLine outer).toList ++ ['\x7d'])) (memberWords members)
  | level, outer, [] => by
    simpa [prettyMembers,memberWords] using writes_closeObject.blanks (blank_newLine outer)
  | level, outer, [(name,value)] => by
    have closed := writes_closeObject.blanks (blank_newLine outer)
    have writes := (writes_prettyAt level value).append closed (stops_newLine outer _)
    have member := writes.member name [' '] (by simp [isBlank])
    simpa [prettyMembers,memberWords] using member.blanks (blank_newLine level)
  | level, outer, (name,value) :: other :: members => by
    have others := (writes_prettyMembers level outer (other :: members)).sign (c := ',') (by decide) fun _ => rfl
    have writes := (writes_prettyAt level value).append others (by simp [Stops])
    have member := writes.member name [' '] (by simp [isBlank])
    simpa [prettyMembers,memberWords] using member.blanks (blank_newLine level)

end

/-- A value is read back from each of its texts, if no number in it is beyond double precision. -/
theorem parse?_written {j : Json} (near : IsNear j) : parse? j.compact = some j ∧ parse? j.pretty = some j := by
  have read {s : String} (writes : Writes s.toList (words j)) : parse? s = some j := by
    have tokens := writes near [] [] (by simp [Stops]) .nil
    rw [List.append_nil,List.append_nil] at tokens
    simp only [parse?,tokens?_of_words tokens,Option.bind_some,ofTokens?_words]
  exact ⟨read (writes_compact j),read (writes_prettyAt 0 j)⟩

end AndroidResources.Json
