import Gangway.Error
import Gangway.Files.Basic
import Gangway.Ssh.HostPattern
import Gangway.Ssh.LookupName
import Gangway.Ssh.PublicKey
import Gangway.Text.Blank
import Gangway.Text.Lines

/-!
# Trust stores

A line of a trust store names hosts by patterns and gives a key for them; blank lines, comments and
marker lines say nothing. A malformed line is skipped and reported with its number, and costs no
other line.
-/

namespace Gangway.Ssh

open Gangway.Text (pieces)

/-- Why a line of a trust store is malformed. -/
inductive LineFault where
  | missingFields
  | pattern (fault : PatternFault)
  | invalidKey
  deriving DecidableEq, Repr

/-- The text of a fault. -/
def LineFault.message : LineFault → String
  | .missingFields => "expected host patterns, key type and key"
  | .pattern fault => fault.message
  | .invalidKey => "invalid public key"

/-- A trusted key with the patterns of the hosts it is trusted for. -/
structure HostKeyEntry where
  patterns : List HostPattern
  key : PublicKey
  deriving DecidableEq, Repr

namespace HostKeyEntry

/-- Whether a trimmed line says nothing: it is empty, a comment or a marker line. -/
def isIgnorable : List Char → Bool
  | [] => true
  | c :: _ => c = '#' || c = '@'

/-- The patterns of the first field, of which the first faulty one counts. -/
def parsePatterns (field : List Char) : Except PatternFault (List HostPattern) :=
  (pieces ',' field).mapM HostPattern.parse

/-- The entry of a line, or none where the line says nothing. -/
def parseLine (line : List Char) : Except LineFault (Option HostKeyEntry) :=
  let line := Text.trim line
  if isIgnorable line then .ok none
  else
    match Text.words line with
    | hosts :: _ :: key :: _ =>
      match parsePatterns hosts with
      | .error fault => .error (.pattern fault)
      | .ok patterns =>
        match PublicKey.ofBase64? key with
        | none => .error .invalidKey
        | some key => .ok (some { patterns, key })
    | _ => .error .missingFields

/-- Reads patterns in order: a negated one that matches ends the search, another one that matches
selects. -/
def search (lookup : String) (selected : Bool) : List HostPattern → Bool
  | [] => selected
  | pattern :: rest =>
    if pattern.selects lookup then
      if pattern.isNegated then false else search lookup true rest
    else search lookup selected rest

/-- Whether the entry applies to a lookup name. -/
def applies (entry : HostKeyEntry) (lookup : String) : Bool := search lookup false entry.patterns

end HostKeyEntry

/-- The usable entries of a trust store, with the numbers of the lines skipped and why. -/
structure TrustStore where
  entries : List HostKeyEntry := []
  skipped : List (Nat × LineFault) := []
  deriving DecidableEq, Repr

namespace TrustStore

/-- The store with one more line, given with its number. -/
def addLine (store : TrustStore) (number : Nat) (line : List Char) : TrustStore :=
  match HostKeyEntry.parseLine line with
  | .ok none => store
  | .ok (some entry) => { store with entries := store.entries ++ [entry] }
  | .error fault => { store with skipped := store.skipped ++ [(number, fault)] }

/-- The store with the lines of a text, numbered from the given number on. -/
def addLines (store : TrustStore) (number : Nat) : List (List Char) → TrustStore
  | [] => store
  | line :: rest => addLines (store.addLine number line) (number + 1) rest

/-- The store of a text. -/
def parse (content : String) : TrustStore := addLines {} 1 (Text.lines content.toList)

/-- The store of a file; a missing file is an empty store. -/
def load (files : Files) (path : String) : Except SshError TrustStore :=
  match files.read path with
  | .ok content => .ok (parse content)
  | .error error =>
    if error.cause = .notFound then .ok {}
    else .error (.trustStoreUnreadable path error.cause.message)

/-- The keys trusted for a host, in the order of their lines. -/
def keysFor (store : TrustStore) (hostname : String) (port : UInt16) : List PublicKey :=
  (store.entries.filter (·.applies (lookupName hostname port))).map (·.key)

end TrustStore

end Gangway.Ssh
