import CanvasPrompt.Text.Basic

/-!
# Identities and times of rows

The database gives each new row an identity and a time. Here both follow from the number of the row:
an identity that ends in that number, and a time that many seconds after the start of 2024.
-/

namespace CanvasPrompt.Database

/-- How the database names and dates the rows that it numbers. -/
structure Issuer where
  /-- The identity of a row. -/
  id : Nat → Text
  /-- The time of a row. -/
  time : Nat → Text

namespace Issuer

/-- The digits of a number, with zeros in front up to a width. -/
def padded (width n : Nat) : Text :=
  let ds := Text.ofNat n
  List.replicate (width - ds.length) (Code.scalar '0') ++ ds

/-- A date. -/
structure Date where
  /-- The year. -/
  year : Nat
  /-- The month, counted from one. -/
  month : Nat
  /-- The day of the month. -/
  day : Nat
  deriving DecidableEq

/-- The date so many days after the first of March of the year zero. Years are taken to begin in
March, so that the day that leap years add comes last. -/
def Date.ofDays (days : Nat) : Date :=
  let cycle := days / 146097
  let inCycle := days % 146097
  let yearInCycle := (inCycle - inCycle / 1460 + inCycle / 36524 - inCycle / 146096) / 365
  let inYear := inCycle - (365 * yearInCycle + yearInCycle / 4 - yearInCycle / 100)
  let month := (5 * inYear + 2) / 153
  let day := inYear - (153 * month + 2) / 5 + 1
  let year := cycle * 400 + yearInCycle
  if month < 10 then ⟨year, month + 3, day⟩ else ⟨year + 1, month - 9, day⟩

/-- The first of January 2024, in days after the first of March of the year zero. -/
def startDay : Nat := 739191

/-- The time so many seconds after the start of 2024. -/
def timeAfter (seconds : Nat) : Text :=
  let d := Date.ofDays (startDay + seconds / 86400)
  padded 4 d.year ++ "-".codes ++ padded 2 d.month ++ "-".codes ++ padded 2 d.day ++ "T".codes ++
    padded 2 (seconds / 3600 % 24) ++ ":".codes ++ padded 2 (seconds / 60 % 60) ++ ":".codes ++
    padded 2 (seconds % 60) ++ "Z".codes

/-- Identities and times that follow from the number of a row. -/
def counting : Issuer :=
  ⟨fun n => "00000000-0000-4000-8000-".codes ++ padded 12 n, timeAfter⟩

end Issuer

end CanvasPrompt.Database
