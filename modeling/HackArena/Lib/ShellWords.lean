import HackArena.Lib.Text

/-!
# Words of the shell

A command line is cut into words as the POSIX shell does it, for command
lines in which nothing is expanded: every character of a bare word stands for
itself, single quotes keep all characters, and double quotes all but those
that introduce an expansion or an escape. Any other text has no reading
here. The words make up commands that follow each other, each with its
standard output redirected at most.
-/

namespace ShellWords

/-! ## Reading -/

inductive Token where
  | word (text : String)
  | semicolon
  | great
  deriving DecidableEq, Repr

inductive Mode where
  | blank | bare | single | double

def isBlank (c : Char) : Bool := c == ' ' || c == '\t'

/-- Characters that stand for themselves in a bare word, wherever in it. -/
def isPlain (c : Char) : Bool :=
  Text.isAsciiAlphanumeric c || "-_./:,@%+".toList.contains c

/-- Characters that double quotes do not take literally. A text with the
null character is no argument of a program. -/
def isActive (c : Char) : Bool := "$\\`\x00".toList.contains c

/-- The word so far is carried along. A redirection is preceded by a blank,
since digits right before it would belong to it. -/
def scan : Mode → List Char → List Char → Option (List Token)
  | .blank, _, [] => some []
  | .blank, _, c :: cs =>
    if isBlank c then scan .blank [] cs
    else if c = ';' then (scan .blank [] cs).map (.semicolon :: ·)
    else if c = '>' then (scan .blank [] cs).map (.great :: ·)
    else if c = '\'' then scan .single [] cs
    else if c = '"' then scan .double [] cs
    else if isPlain c then scan .bare [c] cs
    else none
  | .bare, word, [] => some [.word (String.ofList word)]
  | .bare, word, c :: cs =>
    if isBlank c then (scan .blank [] cs).map (.word (String.ofList word) :: ·)
    else if c = ';' then
      (scan .blank [] cs).map (.word (String.ofList word) :: .semicolon :: ·)
    else if c = '\'' then scan .single word cs
    else if c = '"' then scan .double word cs
    else if isPlain c then scan .bare (word ++ [c]) cs
    else none
  | .single, _, [] => none
  | .single, word, c :: cs =>
    if c = '\'' then scan .bare word cs
    else if c = '\x00' then none
    else scan .single (word ++ [c]) cs
  | .double, _, [] => none
  | .double, word, c :: cs =>
    if c = '"' then scan .bare word cs
    else if isActive c then none
    else scan .double (word ++ [c]) cs

def tokens (line : String) : Option (List Token) := scan .blank [] line.toList

/-- A simple command. -/
structure Command where
  args : List String
  stdout : Option String
  deriving DecidableEq, Repr

/-- Of several redirections the last one counts. -/
def split : List Token → Option (List Command)
  | [] => some [⟨[], none⟩]
  | .semicolon :: ts => (split ts).map (⟨[], none⟩ :: ·)
  | .word w :: ts =>
    match split ts with
    | some (c :: cs) => some ({ c with args := w :: c.args } :: cs)
    | _ => none
  | .great :: .word w :: ts =>
    match split ts with
    | some (c :: cs) => some ({ c with stdout := c.stdout.or (some w) } :: cs)
    | _ => none
  | .great :: _ => none

def reservedWords : List String :=
  ["!", "\x7b", "\x7d", "case", "do", "done", "elif", "else", "esac", "fi", "for", "if", "in", "then",
    "until", "while", "[[", "]]", "function", "select", "time", "coproc"]

/-- The command has a name, and none that begins a compound command. -/
def Command.isSimple (c : Command) : Bool :=
  c.args.head?.any fun name => !reservedWords.contains name

/-- The commands of a line, in their order. -/
def commands (line : String) : Option (List Command) := do
  let cs ← split (← tokens line)
  if cs.all Command.isSimple then some cs else none

/-! ## Quoting -/

/-- In single quotes; a single quote goes into double quotes in between. -/
def quoted (value : List Char) : List Char :=
  '\'' :: value.flatMap (fun c => if c = '\'' then "'\"'\"'".toList else [c]) ++ ['\'']

theorem scan_single_quote (word rest : List Char) :
    scan .single word ("'\"'\"'".toList ++ rest) = scan .single (word ++ ['\'']) rest := rfl

theorem scan_single_value {value : List Char} (h : '\x00' ∉ value) (word rest : List Char) :
    scan .single word
        (value.flatMap (fun c => if c = '\'' then "'\"'\"'".toList else [c]) ++ rest) =
      scan .single (word ++ value) rest := by
  induction value generalizing word with
  | nil => rw [List.append_nil]; rfl
  | cons c value ih =>
    obtain ⟨hc, hvalue⟩ := not_or.mp (List.mem_cons.not.mp h)
    rw [List.flatMap_cons, List.append_assoc, List.append_cons word c value]
    by_cases hquote : c = '\''
    · rw [if_pos hquote, scan_single_quote, hquote]
      exact ih hvalue _
    · rw [if_neg hquote, List.singleton_append, scan, if_neg hquote, if_neg (Ne.symm hc)]
      exact ih hvalue _

theorem scan_blank_quoted {value : List Char} (h : '\x00' ∉ value) (word rest : List Char) :
    scan .blank word (quoted value ++ rest) = scan .bare value rest := by
  have hopen : scan .blank word (quoted value ++ rest) = scan .single []
      (value.flatMap (fun c => if c = '\'' then "'\"'\"'".toList else [c]) ++ '\'' :: rest) := by
    rw [quoted, List.append_assoc]
    rfl
  rw [hopen, scan_single_value h]
  rfl

theorem tokens_quoted {value : String} (h : '\x00' ∉ value.toList) :
    tokens (String.ofList (quoted value.toList)) = some [.word value] := by
  have hword := scan_blank_quoted h [] []
  rw [List.append_nil] at hword
  rw [tokens, String.toList_ofList, hword, scan, String.ofList_toList]

/-! ## Writing -/

/-- An argument as it is written: bare, or a value in quotes. -/
inductive Arg where
  | bare (text : String)
  | quoted (value : String)

namespace Arg

def value : Arg → String
  | .bare text => text
  | .quoted value => value

def chars : Arg → List Char
  | .bare text => text.toList
  | .quoted value => ShellWords.quoted value.toList

/-- The argument can be read back. -/
def Readable : Arg → Prop
  | .bare text => text ≠ "" ∧ ∀ c ∈ text.toList, isPlain c
  | .quoted value => '\x00' ∉ value.toList

end Arg

/-- A simple command as it is written. -/
structure Line where
  name : Arg
  args : List Arg
  stdout : Option Arg

namespace Line

def chars (l : Line) : List Char :=
  l.name.chars ++ l.args.flatMap (fun a => ' ' :: a.chars) ++
    l.stdout.elim [] fun a => ' ' :: '>' :: a.chars

def command (l : Line) : Command := ⟨l.name.value :: l.args.map Arg.value, l.stdout.map Arg.value⟩

structure Readable (l : Line) : Prop where
  name : l.name.Readable
  args : ∀ a ∈ l.args, a.Readable
  stdout : ∀ a ∈ l.stdout, a.Readable

end Line

def scriptChars : List Line → List Char
  | [] => []
  | l :: ls => l.chars ++ ls.flatMap fun l' => ';' :: ' ' :: l'.chars

/-! ## Reading back -/

theorem isPlain_ne {c : Char} (h : isPlain c) :
    isBlank c = false ∧ c ≠ ';' ∧ c ≠ '>' ∧ c ≠ '\'' ∧ c ≠ '"' := by
  refine ⟨?_, ?_, ?_, ?_, ?_⟩
  · rw [isBlank, Bool.or_eq_false_iff, beq_eq_false_iff_ne, beq_eq_false_iff_ne]
    constructor <;>
      · rintro rfl
        exact absurd h (by decide)
  all_goals
    rintro rfl
    exact absurd h (by decide)

theorem scan_bare_plain {cs : List Char} (h : ∀ c ∈ cs, isPlain c) (word rest : List Char) :
    scan .bare word (cs ++ rest) = scan .bare (word ++ cs) rest := by
  induction cs generalizing word with
  | nil => rw [List.append_nil, List.nil_append]
  | cons c cs ih =>
    have hc := h c List.mem_cons_self
    obtain ⟨hblank, hsemi, -, hsingle, hdouble⟩ := isPlain_ne hc
    rw [List.cons_append, scan, hblank, if_neg Bool.false_ne_true, if_neg hsemi, if_neg hsingle,
      if_neg hdouble, if_pos hc, List.append_cons word c cs]
    exact ih (fun d hd => h d (List.mem_cons_of_mem _ hd)) _

theorem scan_blank_arg {a : Arg} (h : a.Readable) (word rest : List Char) :
    scan .blank word (a.chars ++ rest) = scan .bare a.value.toList rest := by
  cases a with
  | quoted value => exact scan_blank_quoted h word rest
  | bare text =>
    obtain ⟨hne, hplain⟩ := h
    obtain ⟨c, cs, hcs⟩ := List.exists_cons_of_ne_nil (String.toList_eq_nil_iff.not.mpr hne)
    rw [hcs] at hplain
    rw [Arg.chars, Arg.value, hcs]
    have hc := hplain c List.mem_cons_self
    obtain ⟨hblank, hsemi, hgreat, hsingle, hdouble⟩ := isPlain_ne hc
    rw [List.cons_append, scan, hblank, if_neg Bool.false_ne_true, if_neg hsemi, if_neg hgreat,
      if_neg hsingle, if_neg hdouble, if_pos hc]
    exact scan_bare_plain (fun d hd => hplain d (List.mem_cons_of_mem _ hd)) _ _

/-- The text ends a word that has been begun, and goes on with these
tokens. -/
def Continues (rest : List Char) (k : Option (List Token)) : Prop :=
  ∀ word, scan .bare word rest = k.map (.word (String.ofList word) :: ·)

section Continues

variable {rest : List Char} {k : Option (List Token)} {a : Arg}

theorem continues_nil : Continues [] (some []) := fun _ => rfl

theorem continues_semicolon :
    Continues (';' :: ' ' :: rest) ((scan .blank [] rest).map (.semicolon :: ·)) := by
  intro word
  rw [Option.map_map]
  rfl

theorem scan_blank_arg_continues (ha : a.Readable) (h : Continues rest k) :
    scan .blank [] (a.chars ++ rest) = k.map (.word a.value :: ·) := by
  rw [scan_blank_arg ha, h, String.ofList_toList]

theorem Continues.arg (ha : a.Readable) (h : Continues rest k) :
    Continues (' ' :: (a.chars ++ rest)) (k.map (.word a.value :: ·)) := by
  intro word
  rw [← scan_blank_arg_continues ha h]
  rfl

theorem Continues.stdout (ha : a.Readable) (h : Continues rest k) :
    Continues (' ' :: '>' :: (a.chars ++ rest))
      (k.map fun ts => .great :: .word a.value :: ts) := by
  intro word
  have hscan := scan_blank_arg_continues ha h
  have hgreat : k.map (fun ts => Token.great :: .word a.value :: ts) =
      (k.map (.word a.value :: ·)).map (Token.great :: ·) := by
    rw [Option.map_map]
    rfl
  rw [hgreat, ← hscan]
  rfl

theorem Continues.args {args : List Arg} (ha : ∀ a ∈ args, a.Readable) (h : Continues rest k) :
    Continues (args.flatMap (fun a => ' ' :: a.chars) ++ rest)
      (k.map ((args.map fun a => .word a.value) ++ ·)) := by
  induction args with
  | nil => simpa using h
  | cons a args ih =>
    have htail := (ih fun b hb => ha b (List.mem_cons_of_mem _ hb)).arg (ha a List.mem_cons_self)
    rw [Option.map_map] at htail
    rw [List.flatMap_cons, List.append_assoc]
    exact htail

end Continues

namespace Line

def tokens (l : Line) : List Token :=
  .word l.name.value :: ((l.args.map fun a => .word a.value) ++
    l.stdout.elim [] fun a => [.great, .word a.value])

theorem scan_chars {l : Line} (hl : l.Readable) {rest : List Char} {k : Option (List Token)}
    (h : Continues rest k) : scan .blank [] (l.chars ++ rest) = k.map (l.tokens ++ ·) := by
  cases hstdout : l.stdout with
  | none =>
    rw [chars, hstdout, Option.elim_none, List.append_nil, List.append_assoc,
      scan_blank_arg_continues hl.name (h.args hl.args), Option.map_map]
    simp only [tokens, hstdout, Option.elim_none, List.append_nil]
    rfl
  | some a =>
    have ha := hl.stdout a (by rw [hstdout]; rfl)
    rw [chars, hstdout, Option.elim_some, List.append_assoc, List.append_assoc, List.cons_append,
      List.cons_append, scan_blank_arg_continues hl.name ((h.stdout ha).args hl.args),
      Option.map_map, Option.map_map]
    simp only [tokens, hstdout]
    congr 1
    funext ts
    simp

theorem split_words (ws : List String) {ts : List Token} {c : Command} {cs : List Command}
    (h : split ts = some (c :: cs)) :
    split (ws.map .word ++ ts) = some ({ c with args := ws ++ c.args } :: cs) := by
  induction ws with
  | nil => exact h
  | cons w ws ih =>
    rw [List.map_cons, List.cons_append, split, ih]
    rfl

theorem split_tokens (l : Line) {ts : List Token} {cs : List Command}
    (h : split ts = some (⟨[], none⟩ :: cs)) :
    split (l.tokens ++ ts) = some (l.command :: cs) := by
  have hargs : ∀ us, l.tokens = ((l.name.value :: l.args.map Arg.value).map .word) ++ us →
      split (us ++ ts) = some (⟨[], l.stdout.map Arg.value⟩ :: cs) →
      split (l.tokens ++ ts) = some (l.command :: cs) := by
    intro us hus hsplit
    rw [hus, List.append_assoc, split_words _ hsplit, List.append_nil]
    rfl
  cases hstdout : l.stdout with
  | none =>
    refine hargs [] ?_ (by rw [hstdout]; exact h)
    simp [tokens, hstdout, Function.comp_def]
  | some a =>
    refine hargs [.great, .word a.value] ?_ ?_
    · simp [tokens, hstdout, Function.comp_def]
    · rw [List.cons_append, List.singleton_append, split, h, hstdout]
      rfl

end Line

def moreTokens (ls : List Line) : List Token := ls.flatMap fun l => .semicolon :: l.tokens

theorem continues_lines {ls : List Line} (h : ∀ l ∈ ls, l.Readable) :
    Continues (ls.flatMap fun l => ';' :: ' ' :: l.chars) (some (moreTokens ls)) := by
  induction ls with
  | nil => exact continues_nil
  | cons l ls ih =>
    have hls := ih fun l' hl' => h l' (List.mem_cons_of_mem _ hl')
    have hmore : some (moreTokens (l :: ls)) =
        ((some (moreTokens ls)).map (l.tokens ++ ·)).map (Token.semicolon :: ·) := rfl
    rw [hmore, ← l.scan_chars (h l List.mem_cons_self) hls]
    exact continues_semicolon

theorem split_moreTokens (ls : List Line) :
    split (moreTokens ls) = some (⟨[], none⟩ :: ls.map Line.command) := by
  induction ls with
  | nil => rfl
  | cons l ls ih =>
    rw [moreTokens, List.flatMap_cons, List.cons_append, split]
    exact congrArg (Option.map _) (l.split_tokens ih)

/-- A script that is written from commands is read as these commands. -/
theorem commands_script {script : String} {ls : List Line} (hne : ls ≠ [])
    (hscript : script.toList = scriptChars ls) (h : ∀ l ∈ ls, l.Readable)
    (hsimple : ∀ l ∈ ls, l.command.isSimple) : commands script = some (ls.map Line.command) := by
  obtain ⟨l, ls, rfl⟩ := List.exists_cons_of_ne_nil hne
  have hall : ((l :: ls).map Line.command).all Command.isSimple = true := by
    simpa using hsimple
  have hscan : tokens script = some (l.tokens ++ moreTokens ls) := by
    rw [tokens, hscript]
    exact l.scan_chars (h l List.mem_cons_self)
      (continues_lines fun l' hl' => h l' (List.mem_cons_of_mem _ hl'))
  have hsplit : split (l.tokens ++ moreTokens ls) = some ((l :: ls).map Line.command) :=
    l.split_tokens (split_moreTokens ls)
  rw [commands, hscan]
  simp only [Option.bind_eq_bind, Option.bind_some, hsplit, hall, if_true]

/-- A script that is written from commands can be an argument itself. -/
theorem not_mem_scriptChars {ls : List Line} (h : ∀ l ∈ ls, l.Readable) :
    '\x00' ∉ scriptChars ls := by
  have harg : ∀ a : Arg, a.Readable → '\x00' ∉ a.chars := by
    intro a ha hmem
    cases a with
    | bare text => exact absurd (ha.2 _ hmem) (by decide)
    | quoted value =>
      simp only [Arg.chars, quoted, List.mem_append, List.mem_cons, List.mem_flatMap] at hmem
      rcases hmem with (hmem | ⟨c, hc, hmem⟩) | hmem
      · exact absurd hmem (by decide)
      · split at hmem
        · exact absurd hmem (by decide)
        · obtain rfl := List.mem_singleton.mp hmem
          exact ha hc
      · exact absurd hmem (by decide)
  have hline : ∀ l ∈ ls, '\x00' ∉ l.chars := by
    intro l hl hmem
    simp only [Line.chars, List.mem_append, List.mem_flatMap, List.mem_cons] at hmem
    rcases hmem with (hmem | ⟨a, ha, hmem | hmem⟩) | hmem
    · exact harg _ (h l hl).name hmem
    · exact absurd hmem (by decide)
    · exact harg a ((h l hl).args a ha) hmem
    · cases hstdout : l.stdout with
      | none =>
        rw [hstdout] at hmem
        cases hmem
      | some a =>
        rw [hstdout, Option.elim_some, List.mem_cons, List.mem_cons] at hmem
        rcases hmem with hmem | hmem | hmem
        · exact absurd hmem (by decide)
        · exact absurd hmem (by decide)
        · exact harg a ((h l hl).stdout a hstdout) hmem
  cases ls with
  | nil => exact List.not_mem_nil
  | cons l ls =>
    intro hmem
    rcases List.mem_append.mp hmem with hmem | hmem
    · exact hline l List.mem_cons_self hmem
    · obtain ⟨l', hl', hmem⟩ := List.mem_flatMap.mp hmem
      rw [List.mem_cons, List.mem_cons] at hmem
      rcases hmem with hmem | hmem | hmem
      · exact absurd hmem (by decide)
      · exact absurd hmem (by decide)
      · exact hline l' (List.mem_cons_of_mem _ hl') hmem

end ShellWords
