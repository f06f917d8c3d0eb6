import Mathlib.Data.List.Forall2
import Mathlib.Data.List.Induction
import PaymentChannel.Contract.Function
import PaymentChannel.Proofs.ByteForms

/-!
# Reading arguments back

A contract reads its arguments by the types of its parameters.  The head has a word of 32 bytes for
each of them: an argument of fixed size, or the distance at which one of variable size stands behind
its length.  Whatever is left of a word or behind a byte string has to be zero.

* `decodeTokens?` : reads an argument list.
* `Token.HasType` : an argument of a type.
* `ParameterType.ofWord?_inline`, `Bytes.stringAt?_append` : an argument of either size is read
  back.
* `ParameterType.decodeAt?_of_layout` : so is one that stands in an argument list.
* `decodeTokens?_encodeTokens` : **an argument list is read back**, if distances and lengths fit
  their words.  `decodeTokens?_encodeTokens_iff` : the condition, where no argument follows one of
  variable size.
* `encodeTokens_inj` : then argument lists are told apart by their bytes, without a condition.
-/

namespace PaymentChannel

/-! ## Reading -/

namespace Bytes

/-- The word of 32 bytes at a position, if the data go that far. -/
def wordAt? (data : Bytes) (position : Nat) : Option Bytes :=
  if position + 32 ≤ data.length then some ((data.drop position).take 32) else none

/-- The byte string of a length in front of the data, if they go that far and nothing but zeros
fills its last word. -/
def stringOf? (length : Nat) (data : Bytes) : Option Bytes :=
  if (data.take length).length = length ∧ padRight 32 (data.take length) <+: data then
    some (data.take length)
  else none

/-- The byte string behind its length, which stands at a position. -/
def stringAt? (data : Bytes) (position : Nat) : Option Bytes :=
  (data.wordAt? position).bind fun length => stringOf? length.toNat (data.drop (position + 32))

end Bytes

/-- The argument in a word, if it is of the given type and its size is fixed. -/
def ParameterType.ofWord? (word : Bytes) : ParameterType → Option Token
  | address =>
    if word.take 12 = List.replicate 12 0 then some (.address (.ofBytes (word.drop 12))) else none
  | uint bits => if word.toNat < 2 ^ bits then some (.uint (BitVec.ofNat 256 word.toNat)) else none
  | fixedBytes size =>
    if word.drop size = List.replicate (32 - size) 0 then some (.fixedBytes (word.take size))
    else none
  | bytes => none

/-- The argument whose part of the head stands at a position. -/
def ParameterType.decodeAt? (data : Bytes) (position : Nat) (type : ParameterType) :
    Option Token :=
  (data.wordAt? position).bind fun word =>
    match type with
    | bytes => (data.stringAt? word.toNat).map .bytes
    | type => type.ofWord? word

/-- The arguments whose heads stand from a position on. -/
def decodeHeads? (data : Bytes) : (position : Nat) → List ParameterType → Option (List Token)
  | _, [] => some []
  | position, type :: rest => do
    let token ← type.decodeAt? data position
    let tokens ← decodeHeads? data (position + 32) rest
    return token :: tokens

/-- Reads an argument list by the types of the parameters. -/
def decodeTokens? (types : List ParameterType) (data : Bytes) : Option (List Token) :=
  decodeHeads? data 0 types

/-! ## Arguments of a type -/

/-- An argument of a type. -/
def Token.HasType : Token → ParameterType → Prop
  | address _, .address => True
  | uint value, .uint bits => value.toNat < 2 ^ bits
  | fixedBytes value, .fixedBytes size => value.length = size ∧ 0 < size ∧ size ≤ 32
  | bytes _, .bytes => True
  | _, _ => False

variable {token : Token} {type : ParameterType} {tokens : List Token} {types : List ParameterType}
  {distance : Nat} {data front middle before after word value : Bytes}

theorem padLeft_address (a : Address) :
    a.bytes.padLeft 32 = List.replicate 12 (0 : UInt8) ++ a.bytes := by
  rw [Bytes.padLeft, Address.length_bytes]

theorem Bytes.padRight_of_le (pos : 0 < value.length) (le : value.length ≤ 32) :
    value.padRight 32 = value ++ List.replicate (32 - value.length) (0 : UInt8) := by
  have zeros : (32 - value.length % 32) % 32 = 32 - value.length := by omega
  rw [padRight, zeros]

theorem Amount.toNat_bytes (a : Amount) : a.bytes.toNat = a.toNat :=
  (toNat_bigEndian ..).trans (Nat.mod_eq_of_lt a.isLt)

/-- What an argument of fixed size puts in the head is one word, and is read back. -/
theorem ParameterType.ofWord?_inline (typed : token.HasType type)
    (inline : token.inline? = some word) :
    word.length = 32 ∧ type.ofWord? word = some token := by
  cases token with
  | address a =>
    cases type with
    | address =>
      obtain rfl := Option.some.inj inline
      rw [padLeft_address]
      exact ⟨by simp, by simp [ofWord?]⟩
    | _ => cases typed
  | uint a =>
    cases type with
    | uint bits =>
      obtain rfl := Option.some.inj inline
      have small : a.toNat < 2 ^ bits := typed
      exact ⟨length_bigEndian .., by simp [ofWord?, Amount.toNat_bytes, small]⟩
    | _ => cases typed
  | fixedBytes value =>
    cases type with
    | fixedBytes size =>
      obtain ⟨rfl, pos, le⟩ := typed
      obtain rfl := Option.some.inj inline
      rw [Bytes.padRight_of_le pos le]
      exact ⟨by simp [le], by simp [ofWord?]⟩
    | _ => cases typed
  | bytes => cases inline

/-! ## Parts of the data -/

namespace Bytes

theorem toNat_lt (data : Bytes) : data.toNat < 256 ^ data.length := by
  induction data using List.reverseRecOn with
  | nil => decide
  | append_singleton front b ih =>
    have byte : b.toNat < 256 := b.toNat_lt
    rw [toNat_append_singleton, List.length_append, List.length_singleton, Nat.pow_succ]
    omega

theorem wordAt?_append (h : word.length = 32) :
    wordAt? (front ++ (word ++ after)) front.length = some word := by
  have fits : front.length + 32 ≤ (front ++ (word ++ after)).length := by
    rw [List.length_append, List.length_append, h]
    omega
  rw [wordAt?, if_pos fits, List.drop_left, List.take_left' h]

theorem toNat_of_wordAt? {position : Nat} (h : data.wordAt? position = some word) :
    word.toNat < 2 ^ 256 := by
  obtain ⟨fits, ⟨⟩⟩ := Option.ite_none_right_eq_some.mp h
  have length : ((data.drop position).take 32).length = 32 := by
    rw [List.length_take, List.length_drop]
    omega
  have lt := toNat_lt ((data.drop position).take 32)
  rwa [length] at lt

theorem stringOf?_padRight : stringOf? value.length (value.padRight 32 ++ after) = some value := by
  have content : (value.padRight 32 ++ after).take value.length = value := by
    rw [padRight, List.append_assoc, List.take_left]
  rw [stringOf?, content, if_pos ⟨rfl, List.prefix_append ..⟩]

/-- A byte string in the tail is read back, if its length fits a word. -/
theorem stringAt?_append (fits : value.length < 2 ^ 256) :
    stringAt? (front ++ ((Token.bytes value).tail ++ after)) front.length = some value := by
  have length : (bigEndian 32 value.length).toNat = value.length :=
    (toNat_bigEndian ..).trans (Nat.mod_eq_of_lt fits)
  have behind : (front ++ (bigEndian 32 value.length ++ (value.padRight 32 ++ after))).drop
      (front.length + 32) = value.padRight 32 ++ after := by
    rw [← List.append_assoc]
    exact List.drop_left' (by simp)
  rw [Token.tail, List.append_assoc, stringAt?, wordAt?_append (length_bigEndian ..),
    Option.bind_some, behind, length, stringOf?_padRight]

/-- So it is behind a word and whatever else stands in between. -/
theorem stringAt?_of_layout (short : value.length < 2 ^ 256)
    (layout : data = front ++ (word ++ (middle ++ ((Token.bytes value).tail ++ after))))
    (length : word.length = 32) (tail : distance = front.length + 32 + middle.length) :
    data.stringAt? distance = some value := by
  have split : data = (front ++ (word ++ middle)) ++ ((Token.bytes value).tail ++ after) := by
    rw [layout]
    simp only [List.append_assoc]
  have reached : distance = (front ++ (word ++ middle)).length := by
    rw [List.length_append, List.length_append, length]
    omega
  rw [split, reached]
  exact stringAt?_append short

theorem length_of_stringAt? {position : Nat} (h : data.stringAt? position = some value) :
    value.length < 2 ^ 256 := by
  obtain ⟨length, found, h⟩ := Option.bind_eq_some_iff.mp h
  obtain ⟨⟨enough, -⟩, ⟨⟩⟩ := Option.ite_none_right_eq_some.mp h
  rw [enough]
  exact toNat_of_wordAt? found

end Bytes

/-! ## Argument lists -/

/-- The distance of each argument of variable size fits a word, and so does its length. -/
def Token.Fit : (distance : Nat) → List Token → Prop
  | _, [] => True
  | distance, token :: rest =>
    (∀ value, token = .bytes value → distance < 2 ^ 256 ∧ value.length < 2 ^ 256) ∧
      Fit (distance + token.tail.length) rest

theorem Token.HasType.headSize (typed : token.HasType type) : token.headSize = 32 := by
  unfold Token.headSize
  split
  · next inline => exact (ParameterType.ofWord?_inline typed inline).1
  · rfl

/-- An argument that puts a distance in the head is a byte string of variable size. -/
theorem Token.HasType.eq_bytes (typed : token.HasType type) (inline : token.inline? = none) :
    ∃ value, token = .bytes value ∧ type = .bytes := by
  cases token with
  | bytes value =>
    cases type with
    | bytes => exact ⟨value, rfl, rfl⟩
    | _ => cases typed
  | _ => cases inline

theorem headsSize_eq (typed : List.Forall₂ Token.HasType tokens types) :
    headsSize tokens = 32 * tokens.length := by
  induction typed with
  | nil => rfl
  | cons head _ ih =>
    rw [headsSize, head.headSize, ih, List.length_cons]
    omega

theorem length_encodeHeads (tokens : List Token) (distance : Nat) :
    (encodeHeads distance tokens).length = headsSize tokens := by
  induction tokens generalizing distance with
  | nil => rfl
  | cons token rest ih =>
    rw [encodeHeads, headsSize, List.length_append, ih, Token.headSize]
    cases token.inline? with
    | none => rw [Option.getD_none, length_bigEndian]
    | some head => rfl

theorem Token.HasType.length_head (typed : token.HasType type) (distance : Nat) :
    (token.inline?.getD (bigEndian 32 distance)).length = 32 := by
  cases inline : token.inline? with
  | none => exact length_bigEndian ..
  | some word => exact (ParameterType.ofWord?_inline typed inline).1

/-- **One argument is read back** from its part of the head and, if its size is variable, from the
tail at the distance that the head names. -/
theorem ParameterType.decodeAt?_of_layout (typed : token.HasType type)
    (fits : ∀ value, token = .bytes value → distance < 2 ^ 256 ∧ value.length < 2 ^ 256)
    (layout : data = front ++ (token.inline?.getD (bigEndian 32 distance) ++
      (middle ++ (token.tail ++ after))))
    (tail : distance = front.length + 32 + middle.length) :
    type.decodeAt? data front.length = some token := by
  have found : data.wordAt? front.length = some (token.inline?.getD (bigEndian 32 distance)) := by
    rw [layout]
    exact Bytes.wordAt?_append (typed.length_head distance)
  rw [decodeAt?, found, Option.bind_some]
  cases inline : token.inline? with
  | some word =>
    obtain ⟨-, read⟩ := ofWord?_inline typed inline
    cases type with
    | bytes => cases read
    | _ => exact read
  | none =>
    obtain ⟨value, rfl, rfl⟩ := typed.eq_bytes inline
    obtain ⟨near, short⟩ := fits value rfl
    rw [inline, Option.getD_none] at layout
    have named : (bigEndian 32 distance).toNat = distance :=
      (toNat_bigEndian ..).trans (Nat.mod_eq_of_lt near)
    have string := Bytes.stringAt?_of_layout short layout (length_bigEndian ..) tail
    rw [Option.getD_none, named]
    dsimp only
    rw [string, Option.map_some]

/-- **Heads are read back** from data that have the tails at the distances that the heads name. -/
theorem decodeHeads?_encodeHeads (typed : List.Forall₂ Token.HasType tokens types)
    (fit : Token.Fit distance tokens)
    (layout : data = front ++ (encodeHeads distance tokens ++
      (middle ++ tokens.flatMap Token.tail)))
    (tails : distance = front.length + headsSize tokens + middle.length) :
    decodeHeads? data front.length types = some tokens := by
  induction typed generalizing distance front middle with
  | nil => rfl
  | @cons token type rest types ofType _ ih =>
    obtain ⟨fits, fit⟩ := fit
    rw [encodeHeads, List.flatMap_cons] at layout
    rw [headsSize, ofType.headSize] at tails
    have split : data = front ++ (token.inline?.getD (bigEndian 32 distance) ++
        (encodeHeads (distance + token.tail.length) rest ++ middle ++
          (token.tail ++ rest.flatMap Token.tail))) := by
      rw [layout]
      simp only [List.append_assoc]
    have first : type.decodeAt? data front.length = some token := by
      refine ParameterType.decodeAt?_of_layout ofType fits split ?_
      rw [tails, List.length_append, length_encodeHeads]
      omega
    have position : (front ++ token.inline?.getD (bigEndian 32 distance)).length =
        front.length + 32 := by
      rw [List.length_append, ofType.length_head]
    have layout' : data = front ++ token.inline?.getD (bigEndian 32 distance) ++
        (encodeHeads (distance + token.tail.length) rest ++
          (middle ++ token.tail ++ rest.flatMap Token.tail)) := by
      rw [split]
      simp only [List.append_assoc]
    have others : decodeHeads? data (front.length + 32) types = some rest := by
      rw [← position]
      refine ih fit layout' ?_
      rw [position, tails, List.length_append]
      omega
    rw [decodeHeads?, first, Option.bind_eq_bind, Option.bind_some, others]
    rfl

/-- **An argument list is read back**, if its distances and lengths fit their words. -/
theorem decodeTokens?_encodeTokens (typed : List.Forall₂ Token.HasType tokens types)
    (fit : Token.Fit (headsSize tokens) tokens) :
    decodeTokens? types (encodeTokens tokens) = some tokens := by
  have layout : encodeTokens tokens =
    [] ++ (encodeHeads (headsSize tokens) tokens ++ ([] ++ tokens.flatMap Token.tail)) := rfl
  exact decodeHeads?_encodeHeads typed fit layout (Nat.zero_add _).symm

/-- Every byte string that is read has a length that fits a word. -/
theorem length_of_decodeHeads? {position : Nat}
    (h : decodeHeads? data position types = some tokens) (mem : .bytes value ∈ tokens) :
    value.length < 2 ^ 256 := by
  induction types generalizing position tokens with
  | nil =>
    cases h
    cases mem
  | cons type rest ih =>
    obtain ⟨token, first, h⟩ := Option.bind_eq_some_iff.mp h
    obtain ⟨others, later, ⟨⟩⟩ := Option.bind_eq_some_iff.mp h
    rcases List.mem_cons.mp mem with rfl | mem
    · obtain ⟨word, -, read⟩ := Option.bind_eq_some_iff.mp first
      cases type with
      | bytes =>
        obtain ⟨_, string, ⟨⟩⟩ := Option.map_eq_some_iff.mp read
        exact Bytes.length_of_stringAt? string
      | _ =>
        obtain ⟨-, ⟨⟩⟩ := Option.ite_none_right_eq_some.mp read
    · exact ih later mem

theorem Token.HasType.tail_eq_nil (typed : token.HasType type) (fixed : type ≠ .bytes) :
    token.tail = [] := by
  cases token with
  | bytes =>
    cases type with
    | bytes => exact absurd rfl fixed
    | _ => cases typed
  | _ => rfl

/-- Nothing is too far away if no argument follows one of variable size. -/
theorem Token.fit_of_last (typed : List.Forall₂ Token.HasType tokens types)
    (last : .bytes ∉ types.dropLast) (near : distance < 2 ^ 256)
    (short : ∀ value, .bytes value ∈ tokens → value.length < 2 ^ 256) :
    Token.Fit distance tokens := by
  induction typed with
  | nil => trivial
  | @cons token type rest types ofType typed ih =>
    refine ⟨fun value he => ⟨near, short value (he ▸ List.mem_cons_self)⟩, ?_⟩
    cases types with
    | nil =>
      cases typed
      trivial
    | cons next types =>
      rw [List.dropLast_cons_cons, List.mem_cons, not_or] at last
      rw [ofType.tail_eq_nil (Ne.symm last.1)]
      exact ih last.2 fun value mem => short value (List.mem_cons_of_mem _ mem)

/-- **When an argument list is read back**, if no argument follows one of variable size. -/
theorem decodeTokens?_encodeTokens_iff (typed : List.Forall₂ Token.HasType tokens types)
    (last : .bytes ∉ types.dropLast) (few : 32 * types.length < 2 ^ 256) :
    decodeTokens? types (encodeTokens tokens) = some tokens ↔
      ∀ value, .bytes value ∈ tokens → value.length < 2 ^ 256 := by
  constructor
  · exact fun read value mem => length_of_decodeHeads? read mem
  · intro short
    rw [← typed.length_eq, ← headsSize_eq typed] at few
    exact decodeTokens?_encodeTokens typed (Token.fit_of_last typed last few short)

/-! ## Telling argument lists apart -/

/-- A byte string of variable size is told by its part of the tail, even if its length does not fit
a word. -/
theorem Token.tail_bytes_inj {value' : Bytes} (h : (bytes value).tail = (bytes value').tail) :
    value = value' := by
  obtain ⟨word, padded⟩ := List.append_inj h (by rw [length_bigEndian, length_bigEndian])
  have low : value.length % 256 ^ 32 = value'.length % 256 ^ 32 := by
    rw [← toNat_bigEndian, word, toNat_bigEndian]
  have lowest : value.length % 32 = value'.length % 32 := by
    have divides : 32 ∣ 256 ^ 32 := by decide
    rw [← Nat.mod_mod_of_dvd _ divides, low, Nat.mod_mod_of_dvd _ divides]
  have length : value.length = value'.length := by
    have total := congrArg List.length padded
    rw [Bytes.padRight, Bytes.padRight, List.length_append, List.length_append,
      List.length_replicate, List.length_replicate, lowest] at total
    exact Nat.add_right_cancel total
  exact (List.append_inj padded length).1

/-- An argument of a type is told by what it puts in the head and in the tail. -/
theorem Token.HasType.inj {token' : Token} {distance' : Nat} (typed : token.HasType type)
    (typed' : token'.HasType type)
    (head : token.inline?.getD (bigEndian 32 distance) =
      token'.inline?.getD (bigEndian 32 distance'))
    (tail : token.tail = token'.tail) : token = token' := by
  cases inline : token.inline? with
  | none =>
    obtain ⟨value, rfl, rfl⟩ := typed.eq_bytes inline
    cases token' with
    | bytes value' => rw [tail_bytes_inj tail]
    | _ => cases typed'
  | some word =>
    obtain ⟨-, read⟩ := ParameterType.ofWord?_inline typed inline
    cases inline' : token'.inline? with
    | none =>
      obtain ⟨value, rfl, rfl⟩ := typed'.eq_bytes inline'
      cases read
    | some word' =>
      obtain ⟨-, read'⟩ := ParameterType.ofWord?_inline typed' inline'
      rw [inline, inline', Option.getD_some, Option.getD_some] at head
      exact Option.some.inj (read.symm.trans (head ▸ read'))

theorem encodeHeads_inj {tokens' : List Token} {distance' : Nat}
    (typed : List.Forall₂ Token.HasType tokens types)
    (typed' : List.Forall₂ Token.HasType tokens' types) (last : .bytes ∉ types.dropLast)
    (heads : encodeHeads distance tokens = encodeHeads distance' tokens')
    (tails : tokens.flatMap Token.tail = tokens'.flatMap Token.tail) : tokens = tokens' := by
  induction typed generalizing tokens' distance distance' with
  | nil =>
    cases typed'
    rfl
  | @cons token type rest types ofType typed ih =>
    obtain _ | ⟨ofType', typed'⟩ := typed'
    rw [encodeHeads, encodeHeads] at heads
    rw [List.flatMap_cons, List.flatMap_cons] at tails
    obtain ⟨head, heads⟩ := List.append_inj heads (by rw [ofType.length_head, ofType'.length_head])
    cases types with
    | nil =>
      cases typed
      cases typed'
      rw [List.flatMap_nil, List.append_nil, List.append_nil] at tails
      rw [ofType.inj ofType' head tails]
    | cons next types =>
      rw [List.dropLast_cons_cons, List.mem_cons, not_or] at last
      have tail := ofType.tail_eq_nil (Ne.symm last.1)
      have tail' := ofType'.tail_eq_nil (Ne.symm last.1)
      rw [tail, tail', List.nil_append, List.nil_append] at tails
      rw [ofType.inj ofType' head (tail.trans tail'.symm), ih typed' last.2 heads tails]

/-- **Argument lists are told apart** by their bytes, if no argument follows one of variable
size. -/
theorem encodeTokens_inj {tokens' : List Token}
    (typed : List.Forall₂ Token.HasType tokens types)
    (typed' : List.Forall₂ Token.HasType tokens' types) (last : .bytes ∉ types.dropLast)
    (h : encodeTokens tokens = encodeTokens tokens') : tokens = tokens' := by
  have length : (encodeHeads (headsSize tokens) tokens).length =
      (encodeHeads (headsSize tokens') tokens').length := by
    rw [length_encodeHeads, length_encodeHeads, headsSize_eq typed, headsSize_eq typed',
      typed.length_eq, typed'.length_eq]
  obtain ⟨heads, tails⟩ := List.append_inj h length
  exact encodeHeads_inj typed typed' last heads tails

end PaymentChannel
