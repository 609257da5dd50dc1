import HackArena.Lib.ShellWords
import HackArena.Lib.TextParts

/-!
# Scripts for the builder

The image of a submission is built on another machine. The scripts for it
are put together from texts and from quoted values, and each goes out as the
quoted argument of a login shell: it is read by the shell of the ssh server,
and then its argument is read again.
-/

namespace HackArena.Official

open ShellWords

def shellEscapeSingle (value : String) : String :=
  "'" ++ Text.replaceChar value '\'' "'\"'\"'" ++ "'"

/-! ## The scripts -/

def remotePrepareCmd (remoteContext remoteArchive : String) : String :=
  "set -euo pipefail; rm -rf " ++ shellEscapeSingle remoteContext ++
    "; mkdir -p " ++ shellEscapeSingle remoteContext ++
    "; tar -xzf " ++ shellEscapeSingle remoteArchive ++ " -C " ++ shellEscapeSingle remoteContext

def remoteBuildCmd (remoteContext imageRef : String) : String :=
  "set -euo pipefail; cd " ++ shellEscapeSingle remoteContext ++
    "; docker build -t " ++ shellEscapeSingle imageRef ++ " ."

def remoteVerifyCmd (imageRef : String) : String :=
  "set -euo pipefail; docker image inspect " ++ shellEscapeSingle imageRef ++ " >/dev/null"

def remotePushCmd (imageRef : String) : String :=
  "set -euo pipefail; docker push " ++ shellEscapeSingle imageRef

def remoteCleanupCmd (remoteContext remoteArchive : String) : String :=
  "rm -rf " ++ shellEscapeSingle remoteContext ++ " " ++ shellEscapeSingle remoteArchive

/-- The scripts of `run_remote_build_pipeline`, with what they are about. -/
inductive RemoteScript where
  | prepare (remoteContext remoteArchive : String)
  | build (remoteContext imageRef : String)
  | verify (imageRef : String)
  | push (imageRef : String)
  | cleanup (remoteContext remoteArchive : String)

namespace RemoteScript

def text : RemoteScript → String
  | prepare remoteContext remoteArchive => remotePrepareCmd remoteContext remoteArchive
  | build remoteContext imageRef => remoteBuildCmd remoteContext imageRef
  | verify imageRef => remoteVerifyCmd imageRef
  | push imageRef => remotePushCmd imageRef
  | cleanup remoteContext remoteArchive => remoteCleanupCmd remoteContext remoteArchive

def values : RemoteScript → List String
  | prepare remoteContext remoteArchive => [remoteContext, remoteArchive]
  | build remoteContext imageRef => [remoteContext, imageRef]
  | verify imageRef => [imageRef]
  | push imageRef => [imageRef]
  | cleanup remoteContext remoteArchive => [remoteContext, remoteArchive]

/-- What the scripts are meant to run. -/
def commands : RemoteScript → List Command
  | prepare remoteContext remoteArchive =>
    [⟨["set", "-euo", "pipefail"], none⟩, ⟨["rm", "-rf", remoteContext], none⟩,
      ⟨["mkdir", "-p", remoteContext], none⟩,
      ⟨["tar", "-xzf", remoteArchive, "-C", remoteContext], none⟩]
  | build remoteContext imageRef =>
    [⟨["set", "-euo", "pipefail"], none⟩, ⟨["cd", remoteContext], none⟩,
      ⟨["docker", "build", "-t", imageRef, "."], none⟩]
  | verify imageRef =>
    [⟨["set", "-euo", "pipefail"], none⟩,
      ⟨["docker", "image", "inspect", imageRef], some "/dev/null"⟩]
  | push imageRef =>
    [⟨["set", "-euo", "pipefail"], none⟩, ⟨["docker", "push", imageRef], none⟩]
  | cleanup remoteContext remoteArchive => [⟨["rm", "-rf", remoteContext, remoteArchive], none⟩]

end RemoteScript

/-- The command that `run_ssh_script` sends. -/
def remoteCommand (script : String) : String := "bash -lc " ++ shellEscapeSingle script

/-- What is run for a command that comes in: the server's shell reads it,
and the login shell reads its argument. -/
def commandsOnBuilder (command : String) : Option (List Command) :=
  match ShellWords.commands command with
  | some [⟨[shell, option, script], none⟩] =>
    if shell = "bash" ∧ option = "-lc" then ShellWords.commands script else none
  | _ => none

/-! ## Their reading -/

theorem shellEscapeSingle_eq (value : String) :
    shellEscapeSingle value = String.ofList (quoted value.toList) := by
  rw [← String.toList_inj, String.toList_ofList, shellEscapeSingle, Text.replaceChar,
    String.toList_append, String.toList_append]
  exact congrArg (fun cs => "'".toList ++ cs ++ "'".toList) String.toList_ofList

namespace RemoteScript

/-- How the commands are written. -/
def lines : RemoteScript → List Line
  | prepare remoteContext remoteArchive =>
    [⟨.bare "set", [.bare "-euo", .bare "pipefail"], none⟩,
      ⟨.bare "rm", [.bare "-rf", .quoted remoteContext], none⟩,
      ⟨.bare "mkdir", [.bare "-p", .quoted remoteContext], none⟩,
      ⟨.bare "tar", [.bare "-xzf", .quoted remoteArchive, .bare "-C", .quoted remoteContext], none⟩]
  | build remoteContext imageRef =>
    [⟨.bare "set", [.bare "-euo", .bare "pipefail"], none⟩,
      ⟨.bare "cd", [.quoted remoteContext], none⟩,
      ⟨.bare "docker", [.bare "build", .bare "-t", .quoted imageRef, .bare "."], none⟩]
  | verify imageRef =>
    [⟨.bare "set", [.bare "-euo", .bare "pipefail"], none⟩,
      ⟨.bare "docker", [.bare "image", .bare "inspect", .quoted imageRef],
        some (.bare "/dev/null")⟩]
  | push imageRef =>
    [⟨.bare "set", [.bare "-euo", .bare "pipefail"], none⟩,
      ⟨.bare "docker", [.bare "push", .quoted imageRef], none⟩]
  | cleanup remoteContext remoteArchive =>
    [⟨.bare "rm", [.bare "-rf", .quoted remoteContext, .quoted remoteArchive], none⟩]

theorem lines_command (s : RemoteScript) : s.lines.map Line.command = s.commands := by
  cases s <;> rfl

theorem text_toList (s : RemoteScript) : s.text.toList = scriptChars s.lines := by
  cases s with
  | prepare remoteContext remoteArchive =>
    unfold text remotePrepareCmd
    simp [shellEscapeSingle_eq, lines, scriptChars, Line.chars, Arg.chars]
  | build remoteContext imageRef =>
    unfold text remoteBuildCmd
    simp [shellEscapeSingle_eq, lines, scriptChars, Line.chars, Arg.chars]
  | verify imageRef =>
    unfold text remoteVerifyCmd
    simp [shellEscapeSingle_eq, lines, scriptChars, Line.chars, Arg.chars]
  | push imageRef =>
    unfold text remotePushCmd
    simp [shellEscapeSingle_eq, lines, scriptChars, Line.chars, Arg.chars]
  | cleanup remoteContext remoteArchive =>
    unfold text remoteCleanupCmd
    simp [shellEscapeSingle_eq, lines, scriptChars, Line.chars, Arg.chars]

def bareTexts : List String :=
  ["set", "-euo", "pipefail", "rm", "-rf", "mkdir", "-p", "tar", "-xzf", "-C", "cd", "docker",
    "build", "-t", ".", "image", "inspect", "/dev/null", "push", "bash", "-lc"]

/-- What is written bare needs no quotes. -/
theorem readable_bare : ∀ text ∈ bareTexts, (Arg.bare text).Readable := by
  have hall : (bareTexts.all fun text => decide (text ≠ "") && text.toList.all isPlain) = true := by
    decide +kernel
  intro text htext
  have h := List.all_eq_true.mp hall text htext
  rw [Bool.and_eq_true, decide_eq_true_iff, List.all_eq_true] at h
  exact h

/-- Every argument is one of these texts or a value in quotes. -/
theorem lines_args (s : RemoteScript) : ∀ l ∈ s.lines, ∀ a ∈ l.name :: l.args ++ l.stdout.elim [] ([·]),
    (∃ text ∈ bareTexts, a = .bare text) ∨ ∃ v ∈ s.values, a = .quoted v := by
  cases s <;> simp [lines, values, bareTexts]
  rintro a ((rfl | rfl | rfl) | rfl) <;> simp

theorem lines_readable {s : RemoteScript} (h : ∀ v ∈ s.values, '\x00' ∉ v.toList) :
    ∀ l ∈ s.lines, l.Readable := by
  intro l hl
  have harg : ∀ a ∈ l.name :: l.args ++ l.stdout.elim [] ([·]), a.Readable := by
    intro a ha
    rcases s.lines_args l hl a ha with ⟨text, htext, rfl⟩ | ⟨v, hv, rfl⟩
    · exact readable_bare text htext
    · exact h v hv
  refine ⟨harg _ (by simp), fun a ha => harg a (by simp [ha]), fun a ha => harg a ?_⟩
  rw [Option.mem_def.mp ha]
  simp

theorem lines_isSimple (s : RemoteScript) : ∀ l ∈ s.lines, l.command.isSimple := by
  have hnames : ∀ l ∈ s.lines, l.name.value ∈ ["set", "rm", "mkdir", "tar", "cd", "docker"] := by
    cases s <;> simp [lines, Arg.value]
  have hfree : ∀ name ∈ ["set", "rm", "mkdir", "tar", "cd", "docker"],
      (!reservedWords.contains name) = true := by decide
  exact fun l hl => hfree _ (hnames l hl)

theorem not_mem_text {s : RemoteScript} (h : ∀ v ∈ s.values, '\x00' ∉ v.toList) :
    '\x00' ∉ s.text.toList := by
  rw [text_toList]
  exact not_mem_scriptChars (lines_readable h)

theorem commands_text {s : RemoteScript} (h : ∀ v ∈ s.values, '\x00' ∉ v.toList) :
    ShellWords.commands s.text = some s.commands := by
  have hne : s.lines ≠ [] := by cases s <;> exact List.cons_ne_nil _ _
  rw [← lines_command]
  exact commands_script hne s.text_toList (lines_readable h) s.lines_isSimple

end RemoteScript

/-- The server's shell hands the script over as it is. -/
theorem commandsOnBuilder_remoteCommand {script : String} (h : '\x00' ∉ script.toList) :
    commandsOnBuilder (remoteCommand script) = ShellWords.commands script := by
  have hread : ShellWords.commands (remoteCommand script) =
      some [⟨["bash", "-lc", script], none⟩] := by
    refine commands_script
      (List.cons_ne_nil ⟨.bare "bash", [.bare "-lc", .quoted script], none⟩ []) ?_ ?_ ?_
    · simp [remoteCommand, shellEscapeSingle_eq, scriptChars, Line.chars, Arg.chars]
    · intro l hl
      obtain rfl := List.mem_singleton.mp hl
      refine ⟨RemoteScript.readable_bare _ (by decide), ?_, fun a ha => by cases ha⟩
      intro a ha
      rcases List.mem_cons.mp ha with rfl | ha
      · exact RemoteScript.readable_bare _ (by decide)
      · obtain rfl := List.mem_singleton.mp ha
        exact h
    · intro l hl
      obtain rfl := List.mem_singleton.mp hl
      rfl
  rw [commandsOnBuilder, hread]
  exact if_pos ⟨rfl, rfl⟩

/-- A quoted value is read as one word, and what arrives at the builder is
run as it is meant. -/
theorem remote_quoting_exact :
    (∀ v : String, '\x00' ∉ v.toList → tokens (shellEscapeSingle v) = some [.word v]) ∧
      ∀ s : RemoteScript, (∀ v ∈ s.values, '\x00' ∉ v.toList) →
        commandsOnBuilder (remoteCommand s.text) = some s.commands := by
  refine ⟨fun v hv => ?_, fun s hs => ?_⟩
  · rw [shellEscapeSingle_eq]
    exact tokens_quoted hv
  · rw [commandsOnBuilder_remoteCommand (s.not_mem_text hs), s.commands_text hs]

/-- A name with a quote, a blank and text that would be run or expanded. -/
theorem remote_quoting_exact_quote :
    tokens (shellEscapeSingle "it's; $(id)") = some [.word "it's; $(id)"] ∧
      commandsOnBuilder (remoteCommand (RemoteScript.push "it's; $(id)").text) =
        some [⟨["set", "-euo", "pipefail"], none⟩, ⟨["docker", "push", "it's; $(id)"], none⟩] :=
  ⟨remote_quoting_exact.1 _ (by decide),
    remote_quoting_exact.2 (.push "it's; $(id)") (by unfold RemoteScript.values; decide)⟩

end HackArena.Official
