import SlcNode.Library.LittleEndian
import Mathlib.Logic.Function.Basic

namespace SlcNode

/-- The files of a store in which every operation succeeds: `none` is a name without a file. -/
abbrev Files := String → Option (List Byte)

namespace DataStore

def sysconfigFileName : String := "data/sysconfig"
def lightscheduleFileName : String := "data/lightschedule"
def voltageThresholdH : String := "data/voltagethh"
def voltageThresholdL : String := "data/voltagethl"
def currentThresholdH : String := "data/currentthh"
def currentThresholdL : String := "data/currentthl"
def freqThresholdH : String := "data/freqthh"
def freqThresholdL : String := "data/freqthl"
def pfThresholdH : String := "data/pfthh"
def pfThresholdL : String := "data/pfthl"
def wattThresholdH : String := "data/wattthh"
def wattThresholdL : String := "data/wattthl"
def luxThresholdH : String := "data/luxthh"
def luxThresholdL : String := "data/luxthh"
def uploadtimestampFileName : String := "data/uploadtimestamp"

structure ReadResult where
  ret : ℤ
  buff : List Byte
  remain : ℤ
deriving DecidableEq

def readFile (files : Files) (name : String) (buffsize : ℕ) : ReadResult :=
  match files name with
  | none => { ret := -2, buff := List.replicate buffsize 0, remain := 0 }
  | some content =>
    let got := content.take buffsize
    { ret := got.length
      buff := got ++ List.replicate (buffsize - got.length) 0
      remain := if got.length > 0 then content.length - got.length else 0 }

def writeFile (files : Files) (name : String) (content : List Byte) : Files :=
  Function.update files name (some content)

def removeFile (files : Files) (name : String) : Files := Function.update files name none

@[simp] theorem writeFile_self (files : Files) (name : String) (content : List Byte) :
    writeFile files name content name = some content := Function.update_self ..

theorem writeFile_of_ne (files : Files) {name other : String} (content : List Byte)
    (h : other ≠ name) : writeFile files name content other = files other :=
  Function.update_of_ne h ..

@[simp] theorem removeFile_self (files : Files) (name : String) :
    removeFile files name name = none := Function.update_self ..

theorem readFile_congr {files files' : Files} {name : String} (h : files name = files' name)
    (buffsize : ℕ) : readFile files name buffsize = readFile files' name buffsize := by
  rw [readFile, readFile, h]

theorem readFile_of_length {files : Files} {name : String} {content : List Byte} {buffsize : ℕ}
    (hf : files name = some content) (hlen : content.length = buffsize) :
    readFile files name buffsize = { ret := buffsize, buff := content, remain := 0 } := by
  simp [readFile, hf, ← hlen]

theorem readFile_whole {files : Files} {name : String} {buffsize : ℕ} (hpos : 0 < buffsize)
    (hret : (readFile files name buffsize).ret = buffsize)
    (hremain : (readFile files name buffsize).remain = 0) :
    files name = some (readFile files name buffsize).buff ∧
      (readFile files name buffsize).buff.length = buffsize := by
  cases hf : files name with
  | none =>
    simp only [readFile, hf] at hret
    omega
  | some content =>
    simp only [readFile, hf, List.length_take] at hret hremain ⊢
    split at hremain
    · have hlen : content.length = buffsize := by omega
      simp [← hlen]
    · omega

end DataStore

end SlcNode
