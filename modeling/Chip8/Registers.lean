/-! The sixteen byte registers; the last one receives flags. -/
namespace Chip8

abbrev Reg := Fin 16

/-- Numbers beyond the last register count from the first again. -/
def Reg.ofNat (n : Nat) : Reg := ⟨n % 16, by omega⟩

/-- The register that an indexed jump adds. -/
def Reg.first : Reg := ⟨0, by decide⟩

/-- The register that arithmetic and drawing use for flags. -/
def Reg.flag : Reg := 15

structure Registers where
  bytes : Vector UInt8 16
deriving DecidableEq

namespace Registers

def zero : Registers := ⟨.replicate 16 0⟩

instance : Inhabited Registers := ⟨zero⟩

def get (v : Registers) (r : Reg) : UInt8 := v.bytes[r]

def set (v : Registers) (r : Reg) (b : UInt8) : Registers := ⟨v.bytes.set r b⟩

def ofFn (f : Reg → UInt8) : Registers := ⟨.ofFn f⟩

def setFlag (v : Registers) (b : Bool) : Registers := v.set Reg.flag b.toUInt8

/-- Registers from the first up to and including `last`. -/
def upTo (v : Registers) (last : Reg) : List UInt8 :=
  v.bytes.toList.take (last + 1)

@[simp] theorem get_ofFn (f : Reg → UInt8) (r : Reg) : (ofFn f).get r = f r := by
  simp [get, ofFn]

theorem get_set (v : Registers) (r q : Reg) (b : UInt8) :
    (v.set r b).get q = if r = q then b else v.get q := by
  simp [get, set, Vector.getElem_set, Fin.ext_iff]

@[simp] theorem get_set_self (v : Registers) (r : Reg) (b : UInt8) : (v.set r b).get r = b := by
  simp [get_set]

theorem get_set_ne (v : Registers) {r q : Reg} (b : UInt8) (ne : r ≠ q) :
    (v.set r b).get q = v.get q := by
  simp [get_set, ne]

theorem ext_get {v w : Registers} (same : ∀ r, v.get r = w.get r) : v = w := by
  obtain ⟨v⟩ := v
  obtain ⟨w⟩ := w
  exact congrArg Registers.mk (Vector.ext fun i hi => same ⟨i, hi⟩)

@[simp] theorem length_upTo (v : Registers) (last : Reg) : (v.upTo last).length = last + 1 := by
  have fits : last.val + 1 ≤ 16 := last.isLt
  rw [upTo, List.length_take, Vector.length_toList, Nat.min_eq_left fits]

theorem getElem_upTo (v : Registers) (last : Reg) {i : Nat} (h : i < (v.upTo last).length) :
    (v.upTo last)[i] = v.get ⟨i, by rw [length_upTo] at h; omega⟩ := by
  simp [upTo, get]

end Registers
end Chip8
