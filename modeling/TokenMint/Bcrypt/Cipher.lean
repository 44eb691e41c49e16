import TokenMint.Bcrypt.Pi

/-! # The cipher

A Feistel network of sixteen rounds on two words of thirty-two bits, with eighteen subkeys and four
boxes of 256 words. Mixing a key in replaces subkeys and boxes by what the cipher makes of zeros
and a salt while they change. -/

namespace TokenMint.Bcrypt

/-- The subkeys and the boxes, these one after another. -/
structure Cipher where
  subkeys : Array UInt32
  boxes : Array UInt32

namespace Cipher

/-- The state before any key: the digits of π. -/
def start : Cipher := ⟨Pi.words.extract 0 18, Pi.words.extract 18 (18 + 4 * 256)⟩

variable (c : Cipher)

def box (n : Nat) (x : UInt32) : UInt32 := c.boxes.getD (256 * n + (x &&& 0xFF).toNat) 0

/-- What one half contributes to the other in a round. -/
def mix (x : UInt32) : UInt32 :=
  ((c.box 0 (x >>> 24) + c.box 1 (x >>> 16)) ^^^ c.box 2 (x >>> 8)) + c.box 3 x

/-- The last `n` of the sixteen rounds, and the end without a swap. -/
def rounds : Nat → UInt32 → UInt32 → UInt32 × UInt32
  | 0, l, r => (r ^^^ c.subkeys.getD 17 0, l ^^^ c.subkeys.getD 16 0)
  | n + 1, l, r =>
    let l := l ^^^ c.subkeys.getD (15 - n) 0
    rounds n (r ^^^ c.mix l) l

/-- A block of two words enciphered. -/
def encipher (block : UInt32 × UInt32) : UInt32 × UInt32 := c.rounds 16 block.1 block.2

/-- Two words of the salt, at an even place. -/
def saltAt (salt : Array UInt32) (i : Nat) : UInt32 × UInt32 :=
  (salt.getD (i % 4) 0, salt.getD ((i + 1) % 4) 0)

/-- The block, mixed with salt and enciphered. -/
def next (salt : Array UInt32) (i : Nat) (block : UInt32 × UInt32) : UInt32 × UInt32 :=
  let s := saltAt salt i
  c.encipher (block.1 ^^^ s.1, block.2 ^^^ s.2)

/-- Replaces the last `n` pairs of the nine pairs of subkeys. -/
def fillSubkeys (salt : Array UInt32) :
    Nat → Cipher → UInt32 × UInt32 → Cipher × (UInt32 × UInt32)
  | 0, c, block => (c, block)
  | n + 1, c, block =>
    let i := 2 * (8 - n)
    let block := c.next salt i block
    let ⟨subkeys, boxes⟩ := c
    let filled := (subkeys.setIfInBounds i block.1).setIfInBounds (i + 1) block.2
    fillSubkeys salt n ⟨filled, boxes⟩ block

/-- Replaces the last `n` pairs of the 512 pairs in the boxes. -/
def fillBoxes (salt : Array UInt32) : Nat → Cipher → UInt32 × UInt32 → Cipher
  | 0, c, _ => c
  | n + 1, c, block =>
    let i := 2 * (511 - n)
    let block := c.next salt (i + 18) block
    let ⟨subkeys, boxes⟩ := c
    fillBoxes salt n ⟨subkeys, (boxes.setIfInBounds i block.1).setIfInBounds (i + 1) block.2⟩ block

/-- Mixes in a key of eighteen words and a salt of four. -/
def expand (salt key : Array UInt32) (c : Cipher) : Cipher :=
  let ⟨subkeys, boxes⟩ := c
  let subkeys := subkeys.mapIdx fun i s ↦ s ^^^ key.getD i 0
  let (c, block) := fillSubkeys salt 9 ⟨subkeys, boxes⟩ (0, 0)
  fillBoxes salt 512 c block

/-- Mixes in two keys in turn, so many times and without salt. -/
def expandTimes (key other : Array UInt32) : Nat → Cipher → Cipher
  | 0, c => c
  | n + 1, c => expandTimes key other n ((c.expand #[] key).expand #[] other)

/-- A block enciphered so many times over. -/
def encipherTimes : Nat → UInt32 × UInt32 → UInt32 × UInt32
  | 0, block => block
  | n + 1, block => encipherTimes n (c.encipher block)

end Cipher

end TokenMint.Bcrypt
