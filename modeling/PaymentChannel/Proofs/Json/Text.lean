import Mathlib.Data.List.Nodup
import PaymentChannel.Json.Parser
import PaymentChannel.Json.Printer

/-!
# The text of JSON values

* `Json.Textual` : values without numbers in which no object has two members of one name.
* `Json.stringRest_escaped` : what is written between quotes reads back, whatever it is.
* `Json.ReadsBack` : the text of a value reads back, whatever follows.  `Json.values?_text` and
  `Json.members?_text` pass this from the parts of an array or an object to the whole.
* `Json.Textual.parse?_render` : **the text of such a value writes that value and no other.**
-/

namespace PaymentChannel.Json

variable {value : Json} {values : List Json} {members : List (String × Json)} {fuel : Nat}

/-- A value without numbers in which no object has two members of one name. -/
inductive Textual : Json → Prop
  | null : Textual null
  | bool (b : Bool) : Textual (bool b)
  | string (s : String) : Textual (string s)
  | array {values : List Json} (h : ∀ value ∈ values, Textual value) : Textual (array values)
  | object {members : List (String × Json)} (distinct : (members.map (·.1)).Nodup)
      (h : ∀ m ∈ members, Textual m.2) : Textual (object members)

/-! ## Strings -/

def escaped (chars : List Char) : List Char := chars.flatMap fun c => (escape c).toList

theorem toList_quote (s : String) : (quote s).toList = '"' :: (escaped s.toList ++ ['"']) := by
  have general : ∀ (chars : List Char) (text : String),
      (chars.foldl (fun text c => text ++ escape c) text).toList = text.toList ++ escaped chars := by
    intro chars
    induction chars with
    | nil => simp [escaped]
    | cons c chars ih =>
      intro text
      simp [ih, escaped]
  simp [quote, general]

theorem toNat?_control {n : Nat} (h : n < 32) :
    Hex.toNat? ['0', '0', Nat.digitChar (n / 16), Nat.digitChar (n % 16)] = some n := by
  have all : ∀ n < 32,
      Hex.toNat? ['0', '0', Nat.digitChar (n / 16), Nat.digitChar (n % 16)] = some n := by decide
  exact all n h

theorem stringRest_escape (c : Char) (read rest : List Char) :
    stringRest none read ((escape c).toList ++ rest) = stringRest none (c :: read) rest := by
  unfold escape
  split
  · next h => subst h; rfl
  split
  · next h => subst h; rfl
  split
  · next control =>
    have first : ¬(0xD800 ≤ c.toNat ∧ c.toNat < 0xDC00) := by omega
    have second : ¬(0xDC00 ≤ c.toNat ∧ c.toNat < 0xE000) := by omega
    simp [stringRest, toNat?_control control, first, second]
  · next backslash control => simp [stringRest, backslash, control]

theorem stringRest_escaped (chars read rest : List Char) :
    stringRest none read (escaped chars ++ '"' :: rest) =
      some (String.ofList (read.reverse ++ chars), rest) := by
  induction chars generalizing read with
  | nil => simp [escaped, stringRest]
  | cons c chars ih =>
    have split : escaped (c :: chars) ++ '"' :: rest =
        (escape c).toList ++ (escaped chars ++ '"' :: rest) := by simp [escaped]
    rw [split, stringRest_escape, ih]
    simp

/-! ## What a text looks like -/

def text (value : Json) : List Char := (render value).toList

def memberText (m : String × Json) : List Char := (quote m.1).toList ++ ':' :: text m.2

theorem toList_renderValues (values : List Json) :
    (renderValues values).toList = values.flatMap fun value => ',' :: text value := by
  induction values with
  | nil => simp [renderValues]
  | cons value values ih => simp [renderValues, ih, text]

theorem toList_renderMembers (members : List (String × Json)) :
    (renderMembers members).toList = members.flatMap fun m => ',' :: memberText m := by
  induction members with
  | nil => simp [renderMembers]
  | cons m members ih => simp [renderMembers, ih, memberText, text]

theorem text_array (value : Json) (values : List Json) : text (array (value :: values)) =
    '[' :: (text value ++ (values.flatMap fun value => ',' :: text value) ++ [']']) := by
  simp [text, render, toList_renderValues]

theorem text_object (m : String × Json) (members : List (String × Json)) :
    text (object (m :: members)) =
      '\x7b' :: (memberText m ++ (members.flatMap fun m => ',' :: memberText m) ++ ['\x7d']) := by
  obtain ⟨name, value⟩ := m
  simp [text, render, toList_renderMembers, memberText]

theorem memberText_eq_cons (m : String × Json) : ∃ tail, memberText m = '"' :: tail := by
  simp [memberText, toList_quote]

/-- A value without numbers starts neither with a blank nor with the end of a list. -/
theorem Textual.text_eq_cons (h : Textual value) :
    ∃ c tail, text value = c :: tail ∧ isBlank c = false ∧ c ≠ ']' := by
  cases h with
  | null => exact ⟨'n', _, rfl, rfl, by decide⟩
  | bool b => cases b <;> simp [text, render, isBlank]
  | string s => simp [text, render, toList_quote, isBlank]
  | @array values => cases values <;> simp [text, render, isBlank]
  | @object members => cases members <;> simp [text, render, isBlank]

/-! ## Values -/

/-- The text of the value reads back as the value, whatever follows. -/
def ReadsBack (value : Json) : Prop :=
  ∀ fuel rest, (text value).length ≤ fuel → value? fuel (text value ++ rest) = some (value, rest)

theorem skipBlanks_of_solid {c : Char} (h : isBlank c = false) (tail : List Char) :
    skipBlanks (c :: tail) = c :: tail := by simp [skipBlanks, h]

theorem values?_text (h : ∀ v ∈ value :: values, ReadsBack v) (fuel : Nat) (read : List Json)
    (rest : List Char)
    (enough : (text value ++ values.flatMap fun v => ',' :: text v).length < fuel) :
    values? fuel read (text value ++ (values.flatMap (fun v => ',' :: text v) ++ ']' :: rest)) =
      some (array (read.reverse ++ value :: values), rest) := by
  induction values generalizing value fuel read with
  | nil =>
    obtain ⟨fuel, rfl⟩ := Nat.exists_eq_add_one.mpr (Nat.zero_lt_of_lt enough)
    have one := h value List.mem_cons_self fuel (']' :: rest) (by simp at enough; omega)
    simp [values?, one, skipBlanks_of_solid (c := ']') rfl]
  | cons next values ih =>
    obtain ⟨fuel, rfl⟩ := Nat.exists_eq_add_one.mpr (Nat.zero_lt_of_lt enough)
    simp only [List.flatMap_cons, List.length_append, List.length_cons] at enough
    have one := h value List.mem_cons_self fuel
      (',' :: (text next ++ (values.flatMap (fun v => ',' :: text v) ++ ']' :: rest))) (by omega)
    have others := ih (fun v hv => h v (List.mem_cons_of_mem _ hv)) fuel (value :: read)
      (by rw [List.length_append]; omega)
    simp [values?, one, skipBlanks_of_solid (c := ',') rfl, others]

theorem putMember_of_notMem {name : String} (h : name ∉ members.map (·.1)) (value : Json) :
    putMember members name value = members ++ [(name, value)] := by
  rw [putMember, List.filter_eq_self.mpr]
  intro m hm
  have ne : m.1 ≠ name := fun he => h (he ▸ List.mem_map_of_mem hm)
  simp [ne]

theorem members?_member {m : String × Json} (h : ReadsBack m.2) {read : List (String × Json)}
    (new : m.1 ∉ read.map (·.1)) (enough : (memberText m).length ≤ fuel) (rest : List Char) :
    members? (fuel + 1) read (memberText m ++ ',' :: rest) = members? fuel (read ++ [m]) rest ∧
      members? (fuel + 1) read (memberText m ++ '\x7d' :: rest) =
        some (object (read ++ [m]), rest) := by
  simp only [memberText, List.length_append, List.length_cons] at enough
  have one (rest : List Char) := h fuel rest (by omega)
  constructor <;>
    simp [members?, memberText, toList_quote, stringRest_escaped, one, putMember_of_notMem new,
      skipBlanks_of_solid (c := '"') rfl, skipBlanks_of_solid (c := ':') rfl,
      skipBlanks_of_solid (c := ',') rfl, skipBlanks_of_solid (c := '\x7d') rfl]

theorem members?_text {m : String × Json} (h : ∀ m' ∈ m :: members, ReadsBack m'.2) (fuel : Nat)
    (read : List (String × Json)) (rest : List Char)
    (distinct : ((read ++ m :: members).map (·.1)).Nodup)
    (enough : (memberText m ++ members.flatMap fun m => ',' :: memberText m).length < fuel) :
    members? fuel read
        (memberText m ++ (members.flatMap (fun m => ',' :: memberText m) ++ '\x7d' :: rest)) =
      some (object (read ++ m :: members), rest) := by
  induction members generalizing m fuel read with
  | nil =>
    obtain ⟨fuel, rfl⟩ := Nat.exists_eq_add_one.mpr (Nat.zero_lt_of_lt enough)
    have new : m.1 ∉ read.map (·.1) := by
      rw [List.map_append] at distinct
      exact fun hm => List.disjoint_of_nodup_append distinct hm List.mem_cons_self
    rw [List.flatMap_nil, List.append_nil] at enough
    exact (members?_member (h m List.mem_cons_self) new (Nat.le_of_lt_succ enough) rest).2
  | cons next members ih =>
    obtain ⟨fuel, rfl⟩ := Nat.exists_eq_add_one.mpr (Nat.zero_lt_of_lt enough)
    have new : m.1 ∉ read.map (·.1) := by
      rw [List.map_append] at distinct
      exact fun hm => List.disjoint_of_nodup_append distinct hm List.mem_cons_self
    simp only [List.flatMap_cons, List.length_append, List.length_cons] at enough
    have others := ih (fun m hm => h m (List.mem_cons_of_mem _ hm)) fuel (read ++ [m])
      (by simpa using distinct) (by rw [List.length_append]; omega)
    rw [List.flatMap_cons, List.cons_append, List.cons_append, List.append_assoc,
      (members?_member (h m List.mem_cons_self) new (by omega) _).1]
    simpa using others

theorem readsBack_array (textual : ∀ value ∈ values, Textual value)
    (h : ∀ value ∈ values, ReadsBack value) : ReadsBack (array values) := by
  intro fuel rest enough
  have positive : 0 < fuel := Nat.lt_of_lt_of_le (by cases values <;> simp [text, render]) enough
  obtain ⟨fuel, rfl⟩ := Nat.exists_eq_add_one.mpr positive
  cases values with
  | nil =>
    simp [value?, text, render, skipBlanks_of_solid (c := '[') rfl,
      skipBlanks_of_solid (c := ']') rfl]
  | cons value values =>
    rw [text_array] at enough ⊢
    simp only [List.length_cons, List.length_append, List.length_nil] at enough
    have all := values?_text h fuel [] rest (by rw [List.length_append]; omega)
    obtain ⟨c, tail, he, solid, ne⟩ := (textual value List.mem_cons_self).text_eq_cons
    rw [he] at all ⊢
    simpa [value?, skipBlanks_of_solid (c := '[') rfl, skipBlanks_of_solid solid, ne] using all

theorem readsBack_object (distinct : (members.map (·.1)).Nodup)
    (h : ∀ m ∈ members, ReadsBack m.2) : ReadsBack (object members) := by
  intro fuel rest enough
  have positive : 0 < fuel := Nat.lt_of_lt_of_le (by cases members <;> simp [text, render]) enough
  obtain ⟨fuel, rfl⟩ := Nat.exists_eq_add_one.mpr positive
  cases members with
  | nil =>
    simp [value?, text, render, skipBlanks_of_solid (c := '\x7b') rfl,
      skipBlanks_of_solid (c := '\x7d') rfl]
  | cons m members =>
    rw [text_object] at enough ⊢
    simp only [List.length_cons, List.length_append, List.length_nil] at enough
    have all := members?_text h fuel [] rest (by simpa using distinct)
      (by rw [List.length_append]; omega)
    obtain ⟨tail, he⟩ := memberText_eq_cons m
    rw [he] at all ⊢
    simpa [value?, skipBlanks_of_solid (c := '\x7b') rfl,
      skipBlanks_of_solid (c := '"') rfl] using all

theorem readsBack_string (s : String) : ReadsBack (string s) := by
  intro fuel rest enough
  have positive : 0 < fuel := Nat.lt_of_lt_of_le (by simp [text, render, toList_quote]) enough
  obtain ⟨fuel, rfl⟩ := Nat.exists_eq_add_one.mpr positive
  simp [value?, text, render, toList_quote, skipBlanks_of_solid (c := '"') rfl, stringRest_escaped]

theorem readsBack_null : ReadsBack null := by
  intro fuel rest enough
  obtain ⟨fuel, rfl⟩ := Nat.exists_eq_add_one.mpr (Nat.lt_of_lt_of_le (by decide) enough)
  simp [value?, text, render, skipBlanks_of_solid (c := 'n') rfl]

theorem readsBack_bool (b : Bool) : ReadsBack (bool b) := by
  intro fuel rest enough
  have positive : 0 < fuel := Nat.lt_of_lt_of_le (by cases b <;> decide) enough
  obtain ⟨fuel, rfl⟩ := Nat.exists_eq_add_one.mpr positive
  cases b
  · simp [value?, text, render, skipBlanks_of_solid (c := 'f') rfl]
  · simp [value?, text, render, skipBlanks_of_solid (c := 't') rfl]

theorem Textual.readsBack (h : Textual value) : ReadsBack value := by
  induction h with
  | null => exact readsBack_null
  | bool b => exact readsBack_bool b
  | string s => exact readsBack_string s
  | array textual ih => exact readsBack_array textual ih
  | object distinct _ ih => exact readsBack_object distinct ih

/-- **The text of a value without numbers writes that value and no other.** -/
theorem Textual.parse?_render (h : Textual value) : parse? (render value) = some value := by
  have whole := h.readsBack ((text value).length + 1) [] (Nat.le_succ _)
  rw [List.append_nil] at whole
  have read : value? ((render value).toList.length + 1) (render value).toList = some (value, []) :=
    whole
  simp only [parse?, read]
  rfl

end PaymentChannel.Json
