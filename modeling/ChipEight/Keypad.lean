import ChipEight.Fault

/-!
# The keypad

Sixteen keys, each pressed or not. The host presses and releases them; programs only ask. There is
no key above 15: pressing one is refused and asking for one finds it released.
-/

namespace ChipEight

abbrev Keypad.keyCount : Nat := 16

@[ext] structure Keypad where
  pressed : Vector Bool Keypad.keyCount

namespace Keypad

def released : Keypad := ⟨Vector.replicate keyCount false⟩

def set (p : Keypad) (key : UInt8) (down : Bool) : Except Fault Keypad :=
  if h : key.toNat < 16 then .ok ⟨p.pressed.set key.toNat down h⟩ else .error (.invalidKey key)

def isPressed (p : Keypad) (key : UInt8) : Bool :=
  if h : key.toNat < 16 then p.pressed[key.toNat] else false

theorem isPressed_set {p q : Keypad} {key : UInt8} {down : Bool} (h : p.set key down = .ok q)
    (k : UInt8) : q.isPressed k = if k = key then down else p.isPressed k := by
  rw [set] at h
  split at h
  · next small =>
    cases h
    by_cases hk : k = key
    · subst hk
      simp [isPressed, small]
    · have : key.toNat ≠ k.toNat := fun e => hk (UInt8.toNat_inj.1 e.symm)
      simp [isPressed, hk, this]
  · simp at h

def firstPressed? (p : Keypad) : Option (Fin 16) :=
  (List.finRange 16).find? p.pressed.get

end Keypad
end ChipEight
