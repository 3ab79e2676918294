import Typecase.Text.Numeral

/-!
# Settings

What staging and caching can be told. The defaults hold until the environment says otherwise, and
the environment is heard only where it gives a positive number.
-/

namespace Typecase

structure StagingSettings where
  /-- What all staged file names start with. -/
  stem : String := ".font"
  /-- How many names are tried before staging gives up. -/
  maxAttempts : Nat := 100
  /-- How many bytes are copied at a time. -/
  chunkSize : Nat := 1024
  deriving DecidableEq, Repr

structure Settings where
  staging : StagingSettings := {}
  /-- How many typefaces the cache may hold. -/
  capacity : Nat := 16
  deriving DecidableEq, Repr

namespace Settings

/-- What reading a variable did. -/
inductive Heard where
  /-- The variable holds this number, written as this text. -/
  | set (name text : String) (value : Nat)
  /-- The variable holds something else. -/
  | ignored (name raw : String)
  deriving DecidableEq, Repr

/-- Reads a variable that should hold a number from 1 to `limit`. -/
def hear (lookup : String → Option String) (name : String) (limit : Nat) : Option Heard :=
  (lookup name).map fun raw =>
    match Text.readPositive limit raw.toList with
    | some value => .set name (String.ofList (Text.strip raw.toList)) value
    | none => .ignored name raw

def Heard.value (fallback : Nat) : Option Heard → Nat
  | some (.set _ _ value) => value
  | _ => fallback

/-- What the three variables said, in the order they are read. -/
structure Readings where
  capacity : Option Heard
  attempts : Option Heard
  chunk : Option Heard

def readings (lookup : String → Option String) : Readings where
  capacity := hear lookup "FONTSTAGE_CACHE_CAPACITY" (UInt64.size - 1)
  attempts := hear lookup "FONTSTAGE_TEMP_ATTEMPTS" (UInt32.size - 1)
  chunk := hear lookup "FONTSTAGE_COPY_BUFFER" (UInt64.size - 1)

def Readings.heard (r : Readings) : List Heard :=
  [r.capacity, r.attempts, r.chunk].filterMap id

/-- The defaults with what was heard put in. No variable sets the stem. -/
def Readings.settings (r : Readings) : Settings :=
  let defaults : Settings := {}
  { staging :=
      { defaults.staging with
        maxAttempts := Heard.value defaults.staging.maxAttempts r.attempts
        chunkSize := Heard.value defaults.staging.chunkSize r.chunk }
    capacity := Heard.value defaults.capacity r.capacity }

def ofLookup (lookup : String → Option String) : Settings := (readings lookup).settings

/-- An environment holds raw bytes. A value that is no text counts as not set. -/
def textLookup (environment : String → Option ByteArray) (name : String) : Option String :=
  (environment name).bind String.fromUTF8?

end Settings

end Typecase
