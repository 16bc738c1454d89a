/-
  Memory allocation as seen from outside: every request is answered by an address or refused.
-/

namespace HandleBridge

/-- How one request is answered: the address of a fresh block of so many bytes, or nothing. -/
abbrev Allocator := Nat → Option Nat

/-- Whether a request for so many bytes would be met. -/
def Allocator.grants (a : Allocator) (bytes : Nat) : Bool := (a bytes).isSome

/-- A source of memory over time: the answer may change from one request to the next. -/
structure Heap where
  answer : Nat → Allocator
  requests : Nat := 0

namespace Heap

/-- How the next request will be answered. -/
def allocator (h : Heap) : Allocator := h.answer h.requests

/-- The heap after one more request. -/
def tick (h : Heap) : Heap := { h with requests := h.requests + 1 }

/-- Meets every request of at most `limit` bytes, each time at an address not given before. -/
def capped (limit : Nat) : Heap where
  answer k bytes := if bytes ≤ limit then some (16 * (k + 1)) else none

theorem grants_capped (limit bytes : Nat) :
    (capped limit).allocator.grants bytes = decide (bytes ≤ limit) := by
  by_cases h : bytes ≤ limit <;> simp [capped, allocator, Allocator.grants, h]

end Heap

end HandleBridge
