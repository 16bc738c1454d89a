import HandleBridge.Text.Unprintable

/-
  Numbers and texts in reports.

  Addresses and code points are written in base sixteen. A text is quoted: it stands between double
  quotes, with escapes for quotes, backslashes, controls and whatever would not show, or would
  attach to its neighbour.
-/

namespace HandleBridge.Text

/-! Numbers. -/

/-- Lower case hexadecimal digits, without leading zeros. -/
def hex (n : Nat) : String := String.ofList (Nat.toDigits 16 n)

/-- Upper case hexadecimal digits, padded with zeros to `width`. -/
def hexUpper (width n : Nat) : String :=
  let ds := (Nat.toDigits 16 n).map Char.toUpper
  String.ofList (List.replicate (width - ds.length) '0' ++ ds)

/-- Lower case hexadecimal digits, padded with zeros to `width`. -/
def hexPadded (width n : Nat) : String :=
  let ds := Nat.toDigits 16 n
  String.ofList (List.replicate (width - ds.length) '0' ++ ds)

example : hex 0x3f0a = "3f0a" ∧ hexUpper 4 0x41 = "0041" ∧ hexPadded 2 10 = "0a" := by
  decide +kernel

/-! Texts. -/

/-- How one character stands in a quoted text. -/
def quoteChar (c : Char) : String :=
  if c == '\x00' then "\\0"
  else if c == '\t' then "\\t"
  else if c == '\r' then "\\r"
  else if c == '\n' then "\\n"
  else if c == '"' then "\\\""
  else if c == '\\' then "\\\\"
  else if 0x20 ≤ c.toNat && c.toNat < 0x7f then c.toString
  else if isExtending c || isUnprintable c then "\\u\x7b" ++ hex c.toNat ++ "\x7d"
  else c.toString

/-- The quoted form of a text. -/
def quote (s : String) : String := "\"" ++ String.join (s.toList.map quoteChar) ++ "\""

example : quote "a'\"\\\n\x7f" = "\"a'\\\"\\\\\\n\\u\x7b7f\x7d\"" := by decide +kernel

example : quote "e\u0301 日" = "\"e\\u\x7b301\x7d 日\"" := by decide +kernel

end HandleBridge.Text
