import PixelPilot.Library.ByteReader

/-!
# Files made of boxes

A box has a size, a name and a content, which may be made of boxes again.  The size is a number
of four bytes; 1 stands for a size of eight bytes behind the name, and 0 for the rest of the
file.

Main results:

- Definitions `box` and `boxes`: the reader of a box, and the boxes of a file with their
  positions.
- Definition `Spells`: some bytes are the given boxes, one behind the other.
- Theorems `spells_boxed`, `spells_longBoxed` and `Spells.append`: how such bytes come about.
- Theorem `boxes_of_spells`: the boxes are read back.
- Definition `descend`: the content that a path of names leads to.
-/

namespace BoxFile

open ByteReader ByteReader.Reader

/-- A box. -/
structure Box where
  name : Nat
  content : List UInt8
deriving DecidableEq, Repr

/-- A name of four characters. -/
def code (a b c d : Char) : Nat :=
  ((a.toNat * 256 + b.toNat) * 256 + c.toNat) * 256 + d.toNat

/-- A box with a size of four bytes. -/
def boxed (name : Nat) (content : List UInt8) : List UInt8 :=
  bigEndian 4 (content.length + 8) ++ (bigEndian 4 name ++ content)

/-- A box with a size of eight bytes. -/
def longBoxed (name : Nat) (content : List UInt8) : List UInt8 :=
  bigEndian 4 1 ++ (bigEndian 4 name ++ (bigEndian 8 (content.length + 16) ++ content))

/-- The reader of a box. -/
def box : Reader Box := do
  let size ← uint 4
  let name ← uint 4
  if size = 0 then do
    let content ← rest
    return ⟨name, content⟩
  else if size = 1 then do
    let size ← uint 8
    if size < 16 then fail
    else do
      let content ← take (size - 16)
      return ⟨name, content⟩
  else if size < 8 then fail
  else do
    let content ← take (size - 8)
    return ⟨name, content⟩

/-- A box with a size of four bytes is read back. -/
theorem reads_boxed {name : Nat} {content : List UInt8} (hname : name < 256 ^ 4)
    (hsize : content.length + 8 < 256 ^ 4) : Reads box (boxed name content) ⟨name, content⟩ := by
  refine (reads_uint hsize).bind ((reads_uint hname).bind ?_)
  rw [if_neg (by omega), if_neg (by omega), if_neg (by omega), Nat.add_sub_cancel]
  exact (reads_take content).map _

/-- A box with a size of eight bytes is read back. -/
theorem reads_longBoxed {name : Nat} {content : List UInt8} (hname : name < 256 ^ 4)
    (hsize : content.length + 16 < 256 ^ 8) :
    Reads box (longBoxed name content) ⟨name, content⟩ := by
  refine (reads_uint (by decide)).bind ((reads_uint hname).bind ?_)
  rw [if_neg (by omega), if_pos rfl]
  refine (reads_uint hsize).bind ?_
  rw [if_neg (by omega), Nat.add_sub_cancel]
  exact (reads_take content).map _

/-! ## Boxes one behind the other -/

/-- The boxes that begin at the position `pos` of a file. -/
def boxesFrom : Nat → Nat → List UInt8 → Option (List (Nat × Box))
  | 0, _, bytes => if bytes.isEmpty then some [] else none
  | fuel + 1, pos, bytes =>
      if bytes.isEmpty then some []
      else
        match box bytes with
        | none => none
        | some (b, rest) =>
            (boxesFrom fuel (pos + (bytes.length - rest.length)) rest).map ((pos, b) :: ·)

/-- The boxes of a file, each with its position.  A box has at least one byte. -/
def boxes (bytes : List UInt8) : Option (List (Nat × Box)) :=
  boxesFrom bytes.length 0 bytes

/-- From the position `pos` on, the bytes are these boxes. -/
inductive Spells : Nat → List UInt8 → List (Nat × Box) → Prop
  | nil (pos : Nat) : Spells pos [] []
  | cons {pos : Nat} {first rest : List UInt8} {b : Box} {bs : List (Nat × Box)} :
      Reads box first b → first ≠ [] → Spells (pos + first.length) rest bs →
        Spells pos (first ++ rest) ((pos, b) :: bs)

/-- With enough turns the reader finds the boxes that are spelled. -/
theorem boxesFrom_of_spells {pos : Nat} {bytes : List UInt8} {bs : List (Nat × Box)}
    (h : Spells pos bytes bs) {fuel : Nat} (hfuel : bytes.length ≤ fuel) :
    boxesFrom fuel pos bytes = some bs := by
  induction h generalizing fuel with
  | nil pos =>
      cases fuel with
      | zero => rfl
      | succ fuel => rfl
  | @cons pos first rest b bs hbox hne _ ih =>
      have hpos : 0 < first.length := List.length_pos_iff.mpr hne
      rw [List.length_append] at hfuel
      obtain ⟨fuel, rfl⟩ : ∃ k, fuel = k + 1 := ⟨fuel - 1, by omega⟩
      have hnonempty : (first ++ rest).isEmpty = false := by simp [hne]
      have hskip : (first ++ rest).length - rest.length = first.length := by simp
      simp only [boxesFrom, hnonempty, Bool.false_eq_true, if_false, hbox rest, hskip]
      rw [ih (by omega)]
      rfl

/-- The boxes are read back. -/
theorem boxes_of_spells {bytes : List UInt8} {bs : List (Nat × Box)} (h : Spells 0 bytes bs) :
    boxes bytes = some bs :=
  boxesFrom_of_spells h (Nat.le_refl _)

/-- What two parts spell, their concatenation does. -/
theorem Spells.append {pos : Nat} {bytes bytes' : List UInt8} {bs bs' : List (Nat × Box)}
    (h : Spells pos bytes bs) (h' : Spells (pos + bytes.length) bytes' bs') :
    Spells pos (bytes ++ bytes') (bs ++ bs') := by
  induction h with
  | nil pos => exact h'
  | @cons pos first rest b bs hbox hne _ ih =>
      rw [List.length_append, ← Nat.add_assoc] at h'
      rw [List.append_assoc]
      exact .cons hbox hne (ih h')

/-- One box. -/
theorem Spells.one {pos : Nat} {bytes : List UInt8} {b : Box} (h : Reads box bytes b)
    (hne : bytes ≠ []) : Spells pos bytes [(pos, b)] := by
  have hcons := Spells.cons h hne (.nil (pos + bytes.length))
  rwa [List.append_nil] at hcons

/-- A box spells itself. -/
theorem spells_boxed {pos name : Nat} {content : List UInt8} (hname : name < 256 ^ 4)
    (hsize : content.length + 8 < 256 ^ 4) :
    Spells pos (boxed name content) [(pos, ⟨name, content⟩)] :=
  .one (reads_boxed hname hsize) (by simp [boxed, bigEndian])

/-- A box with a size of eight bytes spells itself. -/
theorem spells_longBoxed {pos name : Nat} {content : List UInt8} (hname : name < 256 ^ 4)
    (hsize : content.length + 16 < 256 ^ 8) :
    Spells pos (longBoxed name content) [(pos, ⟨name, content⟩)] :=
  .one (reads_longBoxed hname hsize) (by simp [longBoxed, bigEndian])

/-! ## Writing boxes -/

/-- The bytes of boxes with sizes of four bytes. -/
def spell (bs : List Box) : List UInt8 :=
  bs.flatMap fun b => boxed b.name b.content

/-- The boxes with the positions they get. -/
def placed : Nat → List Box → List (Nat × Box)
  | _, [] => []
  | pos, b :: bs => (pos, b) :: placed (pos + (boxed b.name b.content).length) bs

theorem boxed_length (name : Nat) (content : List UInt8) :
    (boxed name content).length = content.length + 8 := by
  simp only [boxed, List.length_append, bigEndian_length]
  omega

@[simp]
theorem spell_cons (b : Box) (bs : List Box) :
    spell (b :: bs) = boxed b.name b.content ++ spell bs :=
  List.flatMap_cons

@[simp]
theorem spell_nil : spell [] = [] :=
  rfl

theorem spell_append (bs bs' : List Box) : spell (bs ++ bs') = spell bs ++ spell bs' :=
  List.flatMap_append

/-- The names of the boxes have four bytes. -/
def Named (bs : List Box) : Prop :=
  (bs.all fun b => decide (b.name < 256 ^ 4)) = true

theorem Named.lt {bs : List Box} (h : Named bs) {b : Box} (hb : b ∈ bs) : b.name < 256 ^ 4 :=
  of_decide_eq_true (List.all_eq_true.mp h b hb)

theorem Named.tail {b : Box} {bs : List Box} (h : Named (b :: bs)) : Named bs := by
  rw [Named, List.all_cons, Bool.and_eq_true] at h
  exact h.2

theorem Named.append {bs bs' : List Box} (h : Named bs) (h' : Named bs') : Named (bs ++ bs') := by
  rw [Named, List.all_append, h, h', Bool.and_true]

/-- Boxes that fit together fit one by one. -/
theorem spells_spell {bs : List Box} (hnames : Named bs) (hsize : (spell bs).length < 256 ^ 4)
    (pos : Nat) : Spells pos (spell bs) (placed pos bs) := by
  induction bs generalizing pos with
  | nil => exact .nil pos
  | cons b bs ih =>
      rw [spell_cons, List.length_append] at hsize
      have hlength := boxed_length b.name b.content
      have hbox : Reads box (boxed b.name b.content) ⟨b.name, b.content⟩ :=
        reads_boxed (hnames.lt List.mem_cons_self) (by omega)
      have hne : boxed b.name b.content ≠ [] := by
        rw [← List.length_pos_iff]
        omega
      rw [spell_cons]
      exact .cons hbox hne (ih hnames.tail (by omega) _)

/-! ## Looking boxes up -/

/-- The content of the first box with a name. -/
def content (name : Nat) (bs : List (Nat × Box)) : Option (List UInt8) :=
  (bs.find? fun b => b.2.name = name).map fun b => b.2.content

/-- The content that a path of names leads to. -/
def descend : List Nat → List UInt8 → Option (List UInt8)
  | [], bytes => some bytes
  | name :: names, bytes =>
      ((boxes bytes).bind (content name)).bind (descend names)

/-- A path is followed through the first box of its name. -/
theorem descend_cons {name : Nat} {names : List Nat} {bytes c : List UInt8}
    {bs : List (Nat × Box)} (h : Spells 0 bytes bs) (hc : content name bs = some c) :
    descend (name :: names) bytes = descend names c := by
  rw [descend, boxes_of_spells h, Option.bind_some, hc, Option.bind_some]

theorem content_cons_of_ne {pos name : Nat} {b : Box} {bs : List (Nat × Box)}
    (h : b.name ≠ name) : content name ((pos, b) :: bs) = content name bs := by
  simp [content, h]

/-- A box of the first part hides one of the same name in the second. -/
theorem content_append (name : Nat) (bs bs' : List (Nat × Box)) :
    content name (bs ++ bs') = (content name bs).or (content name bs') := by
  unfold content
  rw [List.find?_append]
  cases bs.find? fun b => b.2.name = name with
  | none => rfl
  | some b => rfl

/-- The content is that of the first box of the name. -/
theorem content_placed (name pos : Nat) (bs : List Box) :
    content name (placed pos bs) = (bs.find? fun b => b.name = name).map Box.content := by
  induction bs generalizing pos with
  | nil => rfl
  | cons b bs ih =>
      rw [placed, List.find?_cons]
      by_cases h : b.name = name
      · simp [content, h]
      · rw [content_cons_of_ne h, ih]
        simp [h]

/-- A path through boxes that were written. -/
theorem descend_spell {name : Nat} {names : List Nat} {bs : List Box} {c : List UInt8}
    (hnames : Named bs) (hsize : (spell bs).length < 256 ^ 4)
    (hc : (bs.find? fun b => b.name = name).map Box.content = some c) :
    descend (name :: names) (spell bs) = descend names c :=
  descend_cons (spells_spell hnames hsize 0) (by rw [content_placed, hc])

end BoxFile
