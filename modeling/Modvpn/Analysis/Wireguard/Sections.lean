/-
# A configuration file by its sections

The loop that reads a file keeps flags and two collections of lines. What it computes
is said without them here: the lines after a header belong to it, the sections are
parsed one by one, and the interface is parsed last, from the lines of all its sections.
Errors come in the same order.
-/

import Modvpn.Wireguard.Config

namespace Modvpn.Wireguard.Config

variable (platform : Platform)

/-- A header and the lines under it. -/
structure FileSection where
  header : String
  lines : List String

/-- The lines before the first header, and the sections. -/
def sections : List String → List String × List FileSection
  | [] => ([], [])
  | line :: rest =>
      let file := sections rest
      if line.toList.head? = some '[' then ([], ⟨line, file.1⟩ :: file.2)
      else (line :: file.1, file.2)

/-- What a section comes to. -/
inductive Content
  | interface (lines : List String)
  | peer (peer : Peer platform)

namespace Content

variable {platform}

def interfaceLines? : Content platform → Option (List String)
  | .interface lines => some lines
  | .peer _ => none

def peer? : Content platform → Option (Peer platform)
  | .interface _ => none
  | .peer parsed => some parsed

end Content

def parseSection (fileSection : FileSection) : Except BadConfigException (Content platform) :=
  if platform.equalsIgnoreCase "[Interface]" fileSection.header then
    .ok (.interface fileSection.lines)
  else if platform.equalsIgnoreCase "[Peer]" fileSection.header then do
    let peer ← Peer.parse platform fileSection.lines
    return .peer peer
  else throw ⟨.config, .topLevel, .unknownSection, some fileSection.header⟩

/-- The configuration of what the sections came to, after `peers` and `interfaceLines`. -/
def assemble (seenInterfaceSection : Bool) (interfaceLines : List String)
    (peers : List (Peer platform)) (contents : List (Content platform)) :
    Except BadConfigException (Config platform) := do
  let sectionLines := contents.filterMap Content.interfaceLines?
  if !seenInterfaceSection && sectionLines.isEmpty then
    throw ⟨.config, .topLevel, .missingSection, none⟩
  let interfaze ← Interface.parse platform (interfaceLines ++ sectionLines.flatten)
  return { interfaze, peers := peers ++ contents.filterMap Content.peer? }

/-- The configuration of a file without empty lines. -/
def parseSections (lines : List String) : Except BadConfigException (Config platform) :=
  match (sections lines).1 with
  | line :: _ => .error ⟨.config, .topLevel, .unknownSection, some line⟩
  | [] => do
      let contents ← (sections lines).2.mapM (parseSection platform)
      assemble platform false [] [] contents

/-- The lines of a file that are not empty, without comments. -/
def contentLines (text : String) : List String :=
  ((Java.readLines [] text.toList).map content).filter (· ≠ "")

variable {platform}

theorem assemble_interface (seen : Bool) (interfaceLines lines : List String)
    (peers : List (Peer platform)) (contents : List (Content platform)) :
    assemble platform seen interfaceLines peers (.interface lines :: contents) =
      assemble platform true (interfaceLines ++ lines) peers contents := by
  rw [assemble, assemble, List.filterMap_cons_some (show Content.interfaceLines? _ = some lines from rfl),
    List.filterMap_cons_none (show Content.peer? (.interface lines) = none from rfl),
    List.flatten_cons, List.append_assoc]
  simp

theorem assemble_peer (seen : Bool) (interfaceLines : List String) (peer : Peer platform)
    (peers : List (Peer platform)) (contents : List (Content platform)) :
    assemble platform seen interfaceLines peers (.peer peer :: contents) =
      assemble platform seen interfaceLines (peers ++ [peer]) contents := by
  rw [assemble, assemble, List.filterMap_cons_none (show Content.interfaceLines? _ = none from rfl),
    List.filterMap_cons_some (show Content.peer? (.peer peer) = some peer from rfl),
    List.append_cons]

namespace Reader

/-- Only a peer section has lines waiting. -/
def Valid (reader : Reader platform) : Prop :=
  reader.inPeerSection = false → reader.peerLines = []

/-- The end of the loop. -/
def finish (reader : Reader platform) : Except BadConfigException (Config platform) := do
  let reader ← reader.parsePeer
  if !reader.seenInterfaceSection then throw ⟨.config, .topLevel, .missingSection, none⟩
  let interfaze ← Interface.parse platform reader.interfaceLines
  return { interfaze, peers := reader.peers }

/-- Lines that belong to the section that the loop is in. -/
def absorb (reader : Reader platform) (lines : List String) :
    Except BadConfigException (Reader platform) :=
  match lines with
  | [] => .ok reader
  | line :: _ =>
      if reader.inInterfaceSection then
        .ok { reader with interfaceLines := reader.interfaceLines ++ lines }
      else if reader.inPeerSection then .ok { reader with peerLines := reader.peerLines ++ lines }
      else .error ⟨.config, .topLevel, .unknownSection, some line⟩

/-- The rest of a file, by its sections. -/
def remaining (reader : Reader platform) (lines : List String) :
    Except BadConfigException (Config platform) := do
  let reader ← reader.absorb (sections lines).1
  let reader ← reader.parsePeer
  let contents ← (sections lines).2.mapM (parseSection platform)
  assemble platform reader.seenInterfaceSection reader.interfaceLines reader.peers contents

variable {reader : Reader platform}

theorem remaining_nil : reader.remaining [] = reader.finish := by
  cases hpeer : reader.parsePeer with
  | error e => simp [remaining, finish, sections, absorb, hpeer, bind, Except.bind]
  | ok next =>
      simp [remaining, finish, sections, absorb, hpeer, assemble, bind, Except.bind, pure,
        Except.pure]

/-- A line that is no header goes to the section that the loop is in. -/
theorem remaining_of_line {line : String} {rest : List String} (hline : line ≠ "")
    (hheader : line.toList.head? ≠ some '[') :
    reader.remaining (line :: rest) = reader.readLine line >>= fun next => next.remaining rest := by
  simp only [remaining, sections, readLine, if_neg hline, if_neg hheader, absorb]
  by_cases hinterface : reader.inInterfaceSection
  · cases (sections rest).1 <;> simp [hinterface, bind, Except.bind]
  · by_cases hpeer : reader.inPeerSection
    · cases (sections rest).1 <;> simp [hinterface, hpeer, bind, Except.bind]
    · simp [hinterface, hpeer, bind, Except.bind]

theorem absorb_interface (h : reader.inInterfaceSection = true) (lines : List String) :
    reader.absorb lines = .ok { reader with interfaceLines := reader.interfaceLines ++ lines } := by
  cases lines with
  | nil => simp [absorb]
  | cons line lines => simp [absorb, h]

theorem absorb_peer (h : reader.inInterfaceSection = false) (hpeer : reader.inPeerSection = true)
    (lines : List String) :
    reader.absorb lines = .ok { reader with peerLines := reader.peerLines ++ lines } := by
  cases lines with
  | nil => simp [absorb]
  | cons line lines => simp [absorb, h, hpeer]

/-- In an interface section. -/
theorem remaining_interface (h : reader.inInterfaceSection = true)
    (hpeer : reader.inPeerSection = false) (lines : List String) :
    reader.remaining lines = (do
      let contents ← (sections lines).2.mapM (parseSection platform)
      assemble platform reader.seenInterfaceSection
        (reader.interfaceLines ++ (sections lines).1) reader.peers contents) := by
  rw [remaining, absorb_interface h]
  simp [parsePeer, hpeer, bind, Except.bind]

/-- In a peer section that has no lines yet. -/
theorem remaining_peer (h : reader.inInterfaceSection = false)
    (hpeer : reader.inPeerSection = true) (hwaiting : reader.peerLines = []) (lines : List String) :
    reader.remaining lines = (do
      let peer ← Peer.parse platform (sections lines).1
      let contents ← (sections lines).2.mapM (parseSection platform)
      assemble platform reader.seenInterfaceSection reader.interfaceLines
        (reader.peers ++ [peer]) contents) := by
  rw [remaining, absorb_peer h hpeer, hwaiting, List.nil_append]
  cases hparse : Peer.parse platform (sections lines).1 <;>
    simp [parsePeer, hpeer, hparse, bind, Except.bind, pure, Except.pure]

/-- No lines are waiting once the section before has been consumed. -/
theorem peerLines_of_parsePeer (hvalid : reader.Valid) {next : Reader platform}
    (h : reader.parsePeer = .ok next) : next.peerLines = [] := by
  unfold parsePeer at h
  split at h
  · cases hparse : Peer.parse platform reader.peerLines with
    | error e => simp [hparse, bind, Except.bind] at h
    | ok peer =>
        simp only [hparse, bind, Except.bind, pure, Except.pure, Except.ok.injEq] at h
        rw [← h]
  · rename_i hnotPeer
    cases h
    exact hvalid (by simpa using hnotPeer)

/-- The rest of a file that begins with a header. -/
theorem remaining_header {line : String} (hheader : line.toList.head? = some '[')
    (rest : List String) :
    reader.remaining (line :: rest) = (do
      let next ← reader.parsePeer
      let found ← parseSection platform ⟨line, (sections rest).1⟩
      let contents ← (sections rest).2.mapM (parseSection platform)
      assemble platform next.seenInterfaceSection next.interfaceLines next.peers
        (found :: contents)) := by
  rw [remaining, sections, if_pos hheader]
  simp only [absorb, List.mapM_cons, bind_assoc, pure_bind]
  rfl

/-- A header ends the section before it and begins its own. -/
theorem remaining_of_header (hvalid : reader.Valid) {line : String} {rest : List String}
    (hheader : line.toList.head? = some '[') :
    reader.remaining (line :: rest) = reader.readLine line >>= fun next => next.remaining rest := by
  have hline : line ≠ "" := by
    rintro rfl
    simp at hheader
  rw [remaining_header hheader, readLine, if_neg hline, if_pos hheader, bind_assoc]
  cases hpeer : reader.parsePeer with
  | error e => rfl
  | ok next =>
      have hwaiting := peerLines_of_parsePeer hvalid hpeer
      show (parseSection platform _ >>= _) = (ite _ _ _ >>= _)
      by_cases hinterface : platform.equalsIgnoreCase "[Interface]" line
      · rw [if_pos hinterface, parseSection, if_pos hinterface, pure_bind, remaining_interface rfl rfl]
        show ((sections rest).2.mapM (parseSection platform) >>= _) = _
        simp only [assemble_interface]
      · rw [if_neg hinterface, parseSection, if_neg hinterface]
        by_cases hpeerHeader : platform.equalsIgnoreCase "[Peer]" line
        · have hentered : ({ next with inInterfaceSection := false, inPeerSection := true } :
              Reader platform).peerLines = [] := hwaiting
          rw [if_pos hpeerHeader, if_pos hpeerHeader, pure_bind, remaining_peer rfl rfl hentered,
            bind_assoc]
          simp only [pure_bind, assemble_peer]
        · rw [if_neg hpeerHeader, if_neg hpeerHeader]
          rfl

theorem valid_initial : Valid ({} : Reader platform) := fun _ => rfl

theorem Valid.readLine (hvalid : reader.Valid) {line : String} {next : Reader platform}
    (h : reader.readLine line = .ok next) : next.Valid := by
  unfold Reader.readLine at h
  split at h
  · cases h
    exact hvalid
  split at h
  · cases hpeer : reader.parsePeer with
    | error e => simp [hpeer, bind, Except.bind] at h
    | ok consumed =>
        have hwaiting := peerLines_of_parsePeer hvalid hpeer
        rw [hpeer] at h
        change ite _ _ _ = _ at h
        split at h
        · cases h
          exact fun _ => hwaiting
        split at h
        · cases h
          exact fun h => by simp at h
        · cases h
  split at h
  · cases h
    exact hvalid
  split at h
  · rename_i hpeer
    cases h
    exact fun h => by simp [hpeer] at h
  · cases h

/-- The loop over the rest of a file. -/
theorem foldlM_readLine (lines : List String) (reader : Reader platform) (hvalid : reader.Valid) :
    lines.foldlM Reader.readLine reader >>= finish = reader.remaining (lines.filter (· ≠ "")) := by
  induction lines generalizing reader with
  | nil =>
      rw [List.filter_nil, remaining_nil]
      rfl
  | cons line lines ih =>
      rw [List.foldlM_cons, bind_assoc]
      by_cases hline : line = ""
      · have hread : reader.readLine line = .ok reader := by rw [readLine, if_pos hline]
        rw [hread, List.filter_cons_of_neg (by simpa using hline)]
        exact ih reader hvalid
      · rw [List.filter_cons_of_pos (by simpa using hline)]
        have hstep : reader.remaining (line :: lines.filter (· ≠ "")) =
            reader.readLine line >>= fun next => next.remaining (lines.filter (· ≠ "")) := by
          by_cases hheader : line.toList.head? = some '['
          · exact remaining_of_header hvalid hheader
          · exact remaining_of_line hline hheader
        rw [hstep]
        cases hread : reader.readLine line with
        | error e => rfl
        | ok next => exact ih next (hvalid.readLine hread)

end Reader

theorem parse_eq_remaining (text : String) :
    parse platform text = ({} : Reader platform).remaining (contentLines text) := by
  have hparse : parse platform text =
      ((Java.readLines [] text.toList).map content).foldlM Reader.readLine
        ({} : Reader platform) >>= Reader.finish := rfl
  rw [hparse, Reader.foldlM_readLine _ _ Reader.valid_initial, contentLines]

theorem remaining_initial (lines : List String) :
    ({} : Reader platform).remaining lines = parseSections platform lines := by
  rw [Reader.remaining, parseSections]
  cases (sections lines).1 with
  | nil => rfl
  | cons line rest => rfl

/-- For every text the loop computes what the sections of the file come to, and where it fails
it throws the exception of the first section that is wrong. -/
theorem parse_eq_parseSections (text : String) :
    parse platform text = parseSections platform (contentLines text) := by
  rw [parse_eq_remaining, remaining_initial]

end Modvpn.Wireguard.Config
