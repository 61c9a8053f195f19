import Seifenkiste.Library.LittleEndian

/-!
# Common definitions

The enumerations and constants that the client on the robot and the server in the cockpit
share. An enum-typed member is stored in four bytes, so a stored value is a 32-bit word and the
enumerators are some of those words.
-/

namespace Seifenkiste

abbrev Bytes := List UInt8

/-- The buffer that keeps object specific params, tailored to 3 * int. -/
abbrev specialParamsBufferLength : Nat := 12

/-- The length of the buffer that is transferred over TCP as header. -/
abbrev tcpHeaderLength : Nat := 37

inductive SenderTypeDef where
  | undefinedPlatform
  | arduino
  | rpi
  | jetson
  | pc
  deriving DecidableEq, Repr

/-- The stored value of an enumerator. -/
def SenderTypeDef.toUInt32 : SenderTypeDef → UInt32
  | .undefinedPlatform => 0
  | .arduino           => 1
  | .rpi               => 2
  | .jetson            => 3
  | .pc                => 4

inductive SensorTypeDef where
  | undefinedSensor
  | imu
  | usonic1
  | camera1
  | timeSnapshot
  deriving DecidableEq, Repr

/-- The stored value of an enumerator. -/
def SensorTypeDef.toUInt32 : SensorTypeDef → UInt32
  | .undefinedSensor => 0
  | .imu             => 1
  | .usonic1         => 2
  | .camera1         => 3
  | .timeSnapshot    => 4

lemma SenderTypeDef.toNat_lt (s : SenderTypeDef) : s.toUInt32.toNat < 256 := by
  cases s <;> decide

lemma SensorTypeDef.toNat_lt (s : SensorTypeDef) : s.toUInt32.toNat < 256 := by
  cases s <;> decide

/-- A value of type `ssize_t` after its conversion to `int`. -/
def toInt (n : Int) : Int := n.bmod (2 ^ 32)

lemma toInt_eq_self {n : Int} (h : -2 ^ 31 ≤ n) (h' : n < 2 ^ 31) : toInt n = n := by
  apply Int.bmod_eq_of_le <;> omega

/-- The block that `malloc(n)` hands out, with whatever the heap held there before. -/
def malloc (heap : Nat → UInt8) (n : Nat) : Bytes := (List.range n).map heap

@[simp] lemma length_malloc (heap : Nat → UInt8) (n : Nat) : (malloc heap n).length = n := by
  simp [malloc]

/-! ### Control segments -/

def conSegStart : Bytes := ['c', 'o', 'n'].map Char.toUInt8

def conSegEnd : Bytes := ['e', 'n', 'd'].map Char.toUInt8

@[simp] lemma length_conSegStart : conSegStart.length = 3 := by decide

@[simp] lemma length_conSegEnd : conSegEnd.length = 3 := by decide

end Seifenkiste
