import SlcNode.DataStore
import SlcNode.Library.Overwrite
import Mathlib.Data.Stream.Defs

namespace SlcNode

inductive Outcome
  | ok
  | error (code : ℕ)
  | short (count : ℕ)
deriving DecidableEq

inductive OpenFlag
  | creat
  | wronly
  | rdonly
  | binary
  | append
  | trunc
deriving DecidableEq

structure OpenFile where
  name : String
  pos : ℕ
deriving DecidableEq

inductive FsOp
  | bdInit
  | mount
  | unmount
  | format
  | mkdir (dirname : String)
  | openFile (name : String) (flags : List OpenFlag)
  | read (size : ℕ)
  | write (size : ℕ)
  | close
  | remove (name : String)
deriving DecidableEq

structure Flash where
  bdInit : Bool
  mounted : Bool
  opened : Option OpenFile
  files : Files
  outcomes : Stream' Outcome
  log : List (FsOp × ℤ)

abbrev Fs := StateM Flash

namespace Outcome

def code : Outcome → ℤ
  | .error c => -(c + 1)
  | _ => 0

def amount (o : Outcome) (available : ℕ) : ℕ :=
  match o with
  | .short count => min count available
  | _ => available

@[simp] theorem code_ok : code .ok = 0 := rfl

@[simp] theorem amount_ok (available : ℕ) : amount .ok available = available := rfl

end Outcome

namespace Flash

def perform (op : FsOp) (answer : Outcome → Flash → ℤ × Flash) : Fs ℤ := fun s =>
  let r := answer s.outcomes.head s
  (r.1, { r.2 with outcomes := s.outcomes.tail, log := s.log ++ [(op, r.1)] })

def initBd : Fs ℤ := perform .bdInit fun o s => (o.code, s)

def mount : Fs ℤ := perform .mount fun o s =>
  (o.code, if o.code = 0 then { s with mounted := true } else s)

def format : Fs ℤ := perform .format fun o s =>
  (o.code, if o.code = 0 then { s with files := fun _ => none } else s)

def mkdir (dirname : String) : Fs ℤ := perform (.mkdir dirname) fun o s => (o.code, s)

def openFile (name : String) (flags : List OpenFlag) : Fs ℤ :=
  perform (.openFile name flags) fun o s =>
    if o.code ≠ 0 then (o.code, s)
    else if s.files name = none ∧ .creat ∉ flags then (-2, s)
    else
      let old := (s.files name).getD []
      let content := if .trunc ∈ flags then [] else old
      (0, { s with
        files := Function.update s.files name (some content)
        opened := some ⟨name, if .append ∈ flags then content.length else 0⟩ })

def content (s : Flash) : List Byte :=
  (s.opened.bind fun f => s.files f.name).getD []

def size : Fs ℤ := fun s => ((s.content.length : ℤ), s)

def seek (offset : ℤ) : Fs Unit := fun s =>
  ((), if 0 ≤ offset then
    { s with opened := s.opened.map fun f => { f with pos := offset.toNat } } else s)

/-- `size` is what `size_t` makes of the argument. -/
def read (readsize : ℤ) : Fs (ℤ × List Byte) := fun s =>
  let size := (readsize % 2 ^ 32).toNat
  let available := (s.content.drop ((s.opened.map (·.pos)).getD 0)).take size
  let o := s.outcomes.head
  let got := available.take (o.amount available.length)
  let ret := if o.code ≠ 0 then o.code else got.length
  ((ret, if o.code ≠ 0 then [] else got),
    { s with outcomes := s.outcomes.tail, log := s.log ++ [(.read size, ret)] })

def write (buff : List Byte) : Fs ℤ := perform (.write buff.length) fun o s =>
  if o.code ≠ 0 then (o.code, s)
  else
    let stored := buff.take (o.amount buff.length)
    match s.opened with
    | none => (stored.length, s)
    | some f =>
      (stored.length, { s with
        files := Function.update s.files f.name (some (overwrite f.pos stored s.content))
        opened := some { f with pos := f.pos + stored.length } })

def close : Fs Unit := fun s => ((), { s with opened := none, log := s.log ++ [(.close, 0)] })

def unmount : Fs Unit := fun s =>
  ((), { s with mounted := false, log := s.log ++ [(.unmount, 0)] })

def remove (name : String) : Fs ℤ := perform (.remove name) fun o s =>
  if o.code ≠ 0 then (o.code, s)
  else if s.files name = none then (-2, s)
  else (0, { s with files := Function.update s.files name none })

def setBdInit : Fs Unit := fun s => ((), { s with bdInit := true })

def getBdInit : Fs Bool := fun s => (s.bdInit, s)

def ensureBd : Fs ℤ := do
  if ← getBdInit then
    return 0
  let ret ← initBd
  if ret ≠ 0 then
    return ret
  setBdInit
  return 0

def withMount {α : Type} (fail : ℤ → α) (body : Fs α) : Fs α := do
  let ret ← ensureBd
  if ret ≠ 0 then
    return fail ret
  let ret ← mount
  if ret ≠ 0 then
    return fail ret
  let a ← body
  unmount
  return a

def withFile {α : Type} (name : String) (flags : List OpenFlag) (fail : ℤ → α) (body : Fs α) :
    Fs α := do
  let ret ← openFile name flags
  if ret ≠ 0 then
    return fail ret
  let a ← body
  close
  return a

def writeFlags (append : Bool) : List OpenFlag :=
  if append then [.creat, .wronly, .binary, .append] else [.creat, .wronly, .binary]

def writeFile (name : String) (buff : List Byte) (append : Bool) : Fs ℤ :=
  withMount id (withFile name (writeFlags append) id (write buff))

def failRead (buffsize : ℕ) (ret : ℤ) : DataStore.ReadResult :=
  { ret := ret, buff := List.replicate buffsize 0, remain := 0 }

def intSub (a b : ℤ) : ℤ := Int.bmod (a - b) (2 ^ 32)

def readSize (fsize offset buffsize : ℤ) : ℤ :=
  if intSub fsize offset < buffsize then intSub fsize offset else buffsize

def readOpened (offset : ℤ) (buffsize : ℕ) : Fs DataStore.ReadResult := do
  let fsize ← size
  if buffsize = 0 then
    return failRead buffsize 0
  seek offset
  let (ret, got) ← read (readSize fsize offset buffsize)
  return {
    ret := ret
    buff := got ++ List.replicate (buffsize - got.length) 0
    remain := if ret > 0 then fsize - offset - ret else 0 }

def readFile (name : String) (offset : ℤ) (buffsize : ℕ) : Fs DataStore.ReadResult :=
  withMount (failRead buffsize)
    (withFile name [.rdonly, .binary] (failRead buffsize) (readOpened offset buffsize))

def removeFile (name : String) : Fs ℤ := withMount id (remove name)

/-- A file system that does not mount is formatted. -/
def mountFormatted : Fs ℤ := do
  let ret ← mount
  if ret = 0 then
    return 0
  let ret ← format
  if ret ≠ 0 then
    return ret
  mount

def init (dirname : String) : Fs Unit := do
  let ret ← ensureBd
  if ret ≠ 0 then
    return
  let ret ← mountFormatted
  if ret ≠ 0 then
    return
  let _ ← mkdir dirname
  unmount

end Flash

end SlcNode
