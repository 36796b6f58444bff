import Mathlib

/-!
# Wire formats

A wire format writes a value as a list of numbers and reads it back from the front of a list. The law is stated with a
rest (`read_write`), so that formats can be put one after the other: a pair is written as its two parts, a list as its
length and its elements, and any type that is a retract of one with a format has one too (`retract`).
-/

namespace MasqMobile

structure WireFormat (α : Type) where
  write : α → List Nat
  read : List Nat → Option (α × List Nat)
  read_write : ∀ a rest, read (write a ++ rest) = some (a, rest)

namespace WireFormat

variable {α β : Type}

def nat : WireFormat Nat where
  write n := [n]
  read
    | [] => none
    | n :: rest => some (n, rest)
  read_write _ _ := rfl

variable (A : WireFormat α)

def prod (B : WireFormat β) : WireFormat (α × β) where
  write p := A.write p.1 ++ B.write p.2
  read tokens := do
    let (a, rest) ← A.read tokens
    let (b, rest) ← B.read rest
    return ((a, b), rest)
  read_write p rest := by simp [A.read_write, B.read_write]

def readMany (A : WireFormat α) : Nat → List Nat → Option (List α × List Nat)
  | 0, tokens => some ([], tokens)
  | n + 1, tokens => do
    let (a, rest) ← A.read tokens
    let (l, rest) ← A.readMany n rest
    return (a :: l, rest)

theorem readMany_write (l : List α) (rest : List Nat) :
    A.readMany l.length (l.flatMap A.write ++ rest) = some (l, rest) := by
  induction l with
  | nil => rfl
  | cons a l ih => simp [readMany, A.read_write, ih]

def list : WireFormat (List α) where
  write l := l.length :: l.flatMap A.write
  read
    | [] => none
    | n :: tokens => A.readMany n tokens
  read_write l rest := A.readMany_write l rest

/-- A type from which one gets to another and back. -/
def retract (f : α → β) (g : β → α) (h : ∀ b, f (g b) = b) : WireFormat β where
  write b := A.write (g b)
  read tokens := (A.read tokens).map fun (a, rest) => (f a, rest)
  read_write b rest := by simp [A.read_write, h]

def option : WireFormat (Option α) := A.list.retract List.head? Option.toList fun o => by cases o <;> rfl

def bool : WireFormat Bool := nat.retract (· = 1) (fun b => if b then 1 else 0) fun b => by cases b <;> rfl

/-! ## Bytes -/

def unary (n : Nat) : List UInt8 := List.replicate n 0 ++ [1]

def readUnary : Nat → List UInt8 → List Nat
  | _, [] => []
  | n, byte :: bytes => if byte = 0 then readUnary (n + 1) bytes else n :: readUnary 0 bytes

theorem readUnary_unary : readUnary k (unary n ++ rest) = (k + n) :: readUnary 0 rest := by
  induction n generalizing k with
  | zero => simp [unary, readUnary]
  | succ n ih =>
    have hu : unary (n + 1) = 0 :: unary n := rfl
    rw [hu, List.cons_append, readUnary, if_pos rfl, ih]
    congr 1
    omega

theorem readUnary_flatMap : readUnary 0 (tokens.flatMap unary) = tokens := by
  induction tokens with
  | nil => rfl
  | cons n tokens ih => rw [List.flatMap_cons, readUnary_unary, ih, Nat.zero_add]

def bytes (a : α) : List UInt8 := (A.write a).flatMap unary

def ofBytes (bytes : List UInt8) : Option α := (A.read (readUnary 0 bytes)).map Prod.fst

/-- **What is written is read back.** -/
theorem ofBytes_bytes (a : α) : A.ofBytes (A.bytes a) = some a := by
  have h := A.read_write a []
  rw [List.append_nil] at h
  rw [ofBytes, bytes, readUnary_flatMap, h]
  rfl

end WireFormat

end MasqMobile
