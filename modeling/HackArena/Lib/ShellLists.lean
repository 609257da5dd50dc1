import HackArena.Lib.ShellWords

/-!
# Lists of commands of the shell

Commands that are joined by `&&` run one after the other, as long as none
fails. The operator counts outside of quotes only.
-/

namespace ShellWords

/-! ## Cutting -/

inductive Quoting where
  | none | single | double

/-- The part so far is carried along, and whether an ampersand has come
last. -/
def cutAnds (part : List Char) (amp : Bool) : Quoting → List Char → List (List Char)
  | _, [] => [part ++ if amp then ['&'] else []]
  | .none, c :: cs =>
      if c = '&' then
        if amp then part :: cutAnds [] false .none cs else cutAnds part true .none cs
      else cutAnds ((part ++ if amp then ['&'] else []) ++ [c]) false
        (if c = '\'' then .single else if c = '"' then .double else .none) cs
  | .single, c :: cs => cutAnds (part ++ [c]) false (if c = '\'' then .none else .single) cs
  | .double, c :: cs => cutAnds (part ++ [c]) false (if c = '"' then .none else .double) cs

/-- A part that is one command with its words. -/
def simpleCommand (part : List Char) : Option (List String) :=
  match commands (String.ofList part) with
  | some [⟨args, Option.none⟩] => some args
  | _ => Option.none

/-- The words of the commands in a list. -/
def andCommands (line : List Char) : Option (List (List String)) :=
  (cutAnds [] false .none line).mapM simpleCommand

/-! ## Writing -/

def gap : List Char := [' ', '&', '&', ' ', ' ', ' ', ' ', ' ']

/-- Commands in a list, with blanks around the operator. -/
def andChars : List Line → List Char
  | [] => []
  | l :: ls => l.chars ++ ls.flatMap fun l' => gap ++ l'.chars

theorem andChars_eq_intercalate (ls : List Line) :
    andChars ls = gap.intercalate (ls.map Line.chars) := by
  induction ls with
  | nil => rfl
  | cons l ls ih =>
      cases ls with
      | nil => simp [andChars]
      | cons l' ls =>
          rw [List.map_cons, List.map_cons, List.intercalate_cons_cons, ← List.map_cons, ← ih,
            andChars, andChars, List.flatMap_cons, List.append_assoc, List.append_assoc]

variable {part rest : List Char}

theorem cutAnds_ordinary {cs : List Char} (h : ∀ c ∈ cs, c ≠ '&' ∧ c ≠ '\'' ∧ c ≠ '"') :
    cutAnds part false .none (cs ++ rest) = cutAnds (part ++ cs) false .none rest := by
  induction cs generalizing part with
  | nil => rw [List.nil_append, List.append_nil]
  | cons c cs ih =>
      obtain ⟨⟨hamp, hsingle, hdouble⟩, hcs⟩ := List.forall_mem_cons.mp h
      rw [List.cons_append, cutAnds, if_neg hamp, if_neg hsingle, if_neg hdouble, ih hcs]
      simp

theorem cutAnds_single_value (value part rest : List Char) :
    cutAnds part false .single
        (value.flatMap (fun c => if c = '\'' then "'\"'\"'".toList else [c]) ++ rest) =
      cutAnds (part ++ value.flatMap fun c => if c = '\'' then "'\"'\"'".toList else [c]) false
        .single rest := by
  induction value generalizing part with
  | nil => simp
  | cons c value ih =>
      rw [List.flatMap_cons, List.append_assoc, ← List.append_assoc part]
      by_cases hquote : c = '\''
      · rw [if_pos hquote, ← ih]
        simp [cutAnds]
      · rw [if_neg hquote, List.singleton_append, cutAnds, if_neg hquote, ih]

theorem cutAnds_quoted (value : List Char) :
    cutAnds part false .none (quoted value ++ rest) =
      cutAnds (part ++ quoted value) false .none rest := by
  have hopen : cutAnds part false .none (quoted value ++ rest) =
      cutAnds (part ++ ['\'']) false .single
        (value.flatMap (fun c => if c = '\'' then "'\"'\"'".toList else [c]) ++ '\'' :: rest) := by
    rw [quoted, List.append_assoc]
    simp [cutAnds]
  rw [hopen, cutAnds_single_value, cutAnds]
  simp [quoted]

theorem isPlain_ne_amp {c : Char} (h : isPlain c) : c ≠ '&' := by
  rintro rfl
  exact absurd h (by decide)

theorem cutAnds_arg {a : Arg} (h : a.Readable) :
    cutAnds part false .none (a.chars ++ rest) = cutAnds (part ++ a.chars) false .none rest := by
  cases a with
  | bare text =>
      refine cutAnds_ordinary fun c hc => ?_
      have hplain := h.2 c hc
      obtain ⟨-, -, -, hsingle, hdouble⟩ := isPlain_ne hplain
      exact ⟨isPlain_ne_amp hplain, hsingle, hdouble⟩
  | quoted value => exact cutAnds_quoted _

theorem cutAnds_args {args : List Arg} (h : ∀ a ∈ args, a.Readable) :
    cutAnds part false .none (args.flatMap (fun a => ' ' :: a.chars) ++ rest) =
      cutAnds (part ++ args.flatMap fun a => ' ' :: a.chars) false .none rest := by
  induction args generalizing part with
  | nil => simp
  | cons a args ih =>
      obtain ⟨ha, hargs⟩ := List.forall_mem_cons.mp h
      have hblank : cutAnds part false .none (' ' :: (a.chars ++
          (args.flatMap (fun a => ' ' :: a.chars) ++ rest))) =
          cutAnds (part ++ [' ']) false .none (a.chars ++
            (args.flatMap (fun a => ' ' :: a.chars) ++ rest)) := by simp [cutAnds]
      rw [List.flatMap_cons, List.append_assoc, List.cons_append, hblank, cutAnds_arg ha, ih hargs]
      simp

theorem Line.cutAnds_chars {l : Line} (h : l.Readable) (hstdout : l.stdout = Option.none) :
    cutAnds part false .none (l.chars ++ rest) = cutAnds (part ++ l.chars) false .none rest := by
  rw [Line.chars, hstdout, Option.elim_none, List.append_nil, List.append_assoc,
    cutAnds_arg h.name, cutAnds_args h.args, List.append_assoc]

/-! ## Reading back -/

theorem scan_blanks (n : ℕ) (rest : List Char) :
    scan .blank [] (List.replicate n ' ' ++ rest) = scan .blank [] rest := by
  induction n with
  | zero => rfl
  | succ n ih => exact ih

theorem continues_blanks (n : ℕ) : Continues (List.replicate n ' ') (some []) := by
  intro word
  cases n with
  | zero => rfl
  | succ n =>
      have hscan := scan_blanks n []
      rw [List.append_nil] at hscan
      change (scan .blank [] (List.replicate n ' ')).map _ = _
      rw [hscan]
      rfl

theorem Line.simpleCommand_chars {l : Line} (h : l.Readable) (hstdout : l.stdout = Option.none)
    (hsimple : l.command.isSimple = true) (n m : ℕ) :
    simpleCommand (List.replicate n ' ' ++ (l.chars ++ List.replicate m ' ')) =
      some l.command.args := by
  have htokens : ShellWords.tokens (String.ofList (List.replicate n ' ' ++
      (l.chars ++ List.replicate m ' '))) = some (l.tokens ++ []) := by
    rw [ShellWords.tokens, String.toList_ofList, scan_blanks,
      l.scan_chars h (continues_blanks m)]
    rfl
  have hsplit : split (l.tokens ++ []) = some [l.command] := l.split_tokens rfl
  have hcommand : l.command = ⟨l.command.args, Option.none⟩ := by
    rw [Line.command, hstdout]
    rfl
  have hcommands : commands (String.ofList (List.replicate n ' ' ++
      (l.chars ++ List.replicate m ' '))) = some [⟨l.command.args, Option.none⟩] := by
    rw [commands, htokens]
    simp only [Option.bind_eq_bind, Option.bind_some, hsplit, List.all_cons, hsimple,
      List.all_nil, Bool.and_self, if_true]
    rw [← hcommand]
  rw [simpleCommand, hcommands]

theorem cutAnds_gap : cutAnds part false .none (gap ++ rest) =
    (part ++ [' ']) :: cutAnds (List.replicate 5 ' ') false .none rest := by
  simp [gap, cutAnds]

/-- A list that is written from commands is read as these commands. -/
theorem andCommands_andChars {ls : List Line} (hne : ls ≠ []) (h : ∀ l ∈ ls, l.Readable)
    (hstdout : ∀ l ∈ ls, l.stdout = Option.none) (hsimple : ∀ l ∈ ls, l.command.isSimple = true) :
    andCommands (andChars ls) = some (ls.map fun l => l.command.args) := by
  obtain ⟨l, ls, rfl⟩ := List.exists_cons_of_ne_nil hne
  have hread : ∀ n, (cutAnds (List.replicate n ' ') false .none (andChars (l :: ls))).mapM
      simpleCommand = some ((l :: ls).map fun l => l.command.args) := by
    clear hne
    induction ls generalizing l with
    | nil =>
        intro n
        have hl := l.simpleCommand_chars (h l List.mem_cons_self) (hstdout l List.mem_cons_self)
          (hsimple l List.mem_cons_self) n 0
        rw [List.replicate_zero, List.append_nil] at hl
        rw [andChars, Line.cutAnds_chars (h l List.mem_cons_self) (hstdout l List.mem_cons_self)]
        simp [cutAnds, hl]
    | cons l' ls ih =>
        intro n
        have hl := l.simpleCommand_chars (h l List.mem_cons_self) (hstdout l List.mem_cons_self)
          (hsimple l List.mem_cons_self) n 1
        have hrest := ih l' (fun k hk => h k (List.mem_cons_of_mem _ hk))
          (fun k hk => hstdout k (List.mem_cons_of_mem _ hk))
          (fun k hk => hsimple k (List.mem_cons_of_mem _ hk)) 5
        have hmore : andChars (l :: l' :: ls) = l.chars ++ (gap ++ andChars (l' :: ls)) := by
          rw [andChars, andChars, List.flatMap_cons, List.append_assoc]
        rw [List.replicate_one] at hl
        rw [hmore, Line.cutAnds_chars (h l List.mem_cons_self) (hstdout l List.mem_cons_self),
          cutAnds_gap, List.append_assoc, List.mapM_cons, hl, hrest]
        rfl
  exact hread 0

/-! ## Where words come from -/

/-- A word has no other characters than the line. -/
theorem mem_of_scan {mode : Mode} {word cs : List Char} {ts : List Token}
    (h : scan mode word cs = some ts) {w : String} (hw : .word w ∈ ts) {d : Char}
    (hd : d ∈ w.toList) : d ∈ word ∨ d ∈ cs := by
  induction cs generalizing mode word ts with
  | nil =>
      cases mode with
      | blank =>
          obtain rfl := Option.some.inj h
          cases hw
      | bare =>
          obtain rfl := Option.some.inj h
          obtain rfl := Token.word.inj (List.mem_singleton.mp hw)
          rw [String.toList_ofList] at hd
          exact Or.inl hd
      | single => cases h
      | double => cases h
  | cons c cs ih =>
      -- what is read after this character
      have hnext : ∀ {mode word' ts'}, scan mode word' cs = some ts' → .word w ∈ ts' →
          (∀ x ∈ word', x ∈ word ∨ x = c) → d ∈ word ∨ d ∈ c :: cs := by
        intro mode word' ts' hscan hmem hword
        rcases ih hscan hmem with hd' | hd'
        · rcases hword d hd' with hold | rfl
          · exact Or.inl hold
          · exact Or.inr List.mem_cons_self
        · exact Or.inr (List.mem_cons_of_mem _ hd')
      have hoperator : ∀ {t : Token} {mode word'}, (∀ v, t ≠ .word v) →
          (scan mode word' cs).map (t :: ·) = some ts → (∀ x ∈ word', x ∈ word ∨ x = c) →
          d ∈ word ∨ d ∈ c :: cs := by
        intro t mode word' ht hscan hword
        obtain ⟨ts', hts', rfl⟩ := Option.map_eq_some_iff.mp hscan
        exact hnext hts' ((List.mem_cons.mp hw).resolve_left fun heq => ht w heq.symm) hword
      have hended : ∀ {ts'}, .word w ∈ Token.word (String.ofList word) :: ts' →
          (.word w ∈ ts' → d ∈ word ∨ d ∈ c :: cs) → d ∈ word ∨ d ∈ c :: cs := by
        intro ts' hmem hrest
        rcases List.mem_cons.mp hmem with heq | hmem
        · obtain rfl := Token.word.inj heq
          rw [String.toList_ofList] at hd
          exact Or.inl hd
        · exact hrest hmem
      cases mode with
      | blank =>
          rw [scan] at h
          split_ifs at h
          · exact hnext h hw (by simp)
          · exact hoperator (by simp) h (by simp)
          · exact hoperator (by simp) h (by simp)
          · exact hnext h hw (by simp)
          · exact hnext h hw (by simp)
          · exact hnext h hw (by simp)
      | bare =>
          rw [scan] at h
          split_ifs at h
          · obtain ⟨ts', hts', rfl⟩ := Option.map_eq_some_iff.mp h
            exact hended hw fun hmem => hnext hts' hmem (by simp)
          · obtain ⟨ts', hts', rfl⟩ := Option.map_eq_some_iff.mp h
            refine hended hw fun hmem => hnext hts' ?_ (by simp)
            simpa using hmem
          · exact hnext h hw fun x hx => Or.inl hx
          · exact hnext h hw fun x hx => Or.inl hx
          · exact hnext h hw (by simp)
      | single =>
          rw [scan] at h
          split_ifs at h
          · exact hnext h hw fun x hx => Or.inl hx
          · exact hnext h hw (by simp)
      | double =>
          rw [scan] at h
          split_ifs at h
          · exact hnext h hw fun x hx => Or.inl hx
          · exact hnext h hw (by simp)

theorem mem_of_split {ts : List Token} {cs : List Command} (h : split ts = some cs) {c : Command}
    (hc : c ∈ cs) {w : String} (hw : w ∈ c.args) : .word w ∈ ts := by
  induction ts using split.induct generalizing cs c with
  | case1 =>
      obtain rfl := Option.some.inj h
      obtain rfl := List.mem_singleton.mp hc
      cases hw
  | case2 ts ih =>
      obtain ⟨cs', hcs', rfl⟩ := Option.map_eq_some_iff.mp h
      rcases List.mem_cons.mp hc with rfl | hc
      · cases hw
      · exact List.mem_cons_of_mem _ (ih hcs' hc hw)
  | case3 v ts c' cs' hsplit ih =>
      rw [split, hsplit] at h
      obtain rfl := Option.some.inj h
      rcases List.mem_cons.mp hc with rfl | hc
      · rcases List.mem_cons.mp hw with rfl | hw
        · exact List.mem_cons_self
        · exact List.mem_cons_of_mem _ (ih hsplit List.mem_cons_self hw)
      · exact List.mem_cons_of_mem _ (ih hsplit (List.mem_cons_of_mem _ hc) hw)
  | case4 v ts hsplit ih =>
      rw [split] at h
      cases hts : split ts with
      | none =>
          rw [hts] at h
          cases h
      | some commands =>
          cases commands with
          | nil =>
              rw [hts] at h
              cases h
          | cons c' cs' => exact absurd hts (hsplit c' cs')
  | case5 v ts c' cs' hsplit ih =>
      rw [split, hsplit] at h
      obtain rfl := Option.some.inj h
      have hlater : .word w ∈ ts → Token.word w ∈ Token.great :: .word v :: ts := fun hmem =>
        List.mem_cons_of_mem _ (List.mem_cons_of_mem _ hmem)
      rcases List.mem_cons.mp hc with rfl | hc
      · exact hlater (ih hsplit List.mem_cons_self hw)
      · exact hlater (ih hsplit (List.mem_cons_of_mem _ hc) hw)
  | case6 v ts hsplit ih =>
      rw [split] at h
      cases hts : split ts with
      | none =>
          rw [hts] at h
          cases h
      | some commands =>
          cases commands with
          | nil =>
              rw [hts] at h
              cases h
          | cons c' cs' => exact absurd hts (hsplit c' cs')
  | case7 ts hnot =>
      rw [split] at h
      · cases h
      · exact hnot

theorem mem_of_simpleCommand {words : List String} (h : simpleCommand part = some words)
    {w : String} (hw : w ∈ words) {d : Char} (hd : d ∈ w.toList) : d ∈ part := by
  unfold simpleCommand at h
  split at h
  · rename_i args hcommands
    obtain rfl := Option.some.inj h
    rw [commands] at hcommands
    obtain ⟨ts, hts, hcommands⟩ := Option.bind_eq_some_iff.mp hcommands
    obtain ⟨cs, hcs, hcommands⟩ := Option.bind_eq_some_iff.mp hcommands
    split at hcommands
    · obtain rfl := Option.some.inj hcommands
      rw [ShellWords.tokens, String.toList_ofList] at hts
      have hword : Token.word w ∈ ts := mem_of_split hcs List.mem_cons_self hw
      exact (mem_of_scan hts hword hd).resolve_left List.not_mem_nil
    · cases hcommands
  · cases h

theorem mem_of_mem_cutAnds {amp : Bool} {q : Quoting} {line p : List Char}
    (hp : p ∈ cutAnds part amp q line) {d : Char} (hd : d ∈ p) (hamp : d ≠ '&') :
    d ∈ part ∨ d ∈ line := by
  have hpending : ∀ {b : Bool}, d ∈ (part ++ if b then ['&'] else []) → d ∈ part := by
    intro b hmem
    cases b <;> simpa [hamp] using hmem
  induction line generalizing part amp q with
  | nil =>
      cases q <;>
      · obtain rfl := List.mem_singleton.mp hp
        exact Or.inl (hpending hd)
  | cons c cs ih =>
      have hnext : ∀ {part' amp' q'}, p ∈ cutAnds part' amp' q' cs →
          (∀ x ∈ part', x ≠ '&' → x ∈ part ∨ x = c) → d ∈ part ∨ d ∈ c :: cs := by
        intro part' amp' q' hmem hpart
        rcases ih hmem (fun {b} hb => by cases b <;> simpa [hamp] using hb) with hd' | hd'
        · rcases hpart d hd' hamp with hold | rfl
          · exact Or.inl hold
          · exact Or.inr List.mem_cons_self
        · exact Or.inr (List.mem_cons_of_mem _ hd')
      cases q with
      | none =>
          rw [cutAnds] at hp
          split_ifs at hp
          · rcases List.mem_cons.mp hp with rfl | hp
            · exact Or.inl hd
            · exact hnext hp (by simp)
          all_goals exact hnext hp (by simp; tauto)
      | single => exact hnext hp (by simp; tauto)
      | double => exact hnext hp (by simp; tauto)

theorem exists_of_mem_mapM {ps : List (List Char)} {cs : List (List String)}
    (h : ps.mapM simpleCommand = some cs) {words : List String} (hwords : words ∈ cs) :
    ∃ p ∈ ps, simpleCommand p = some words := by
  induction ps generalizing cs with
  | nil =>
      obtain rfl := Option.some.inj h
      cases hwords
  | cons p ps ih =>
      rw [List.mapM_cons] at h
      obtain ⟨first, hfirst, h⟩ := Option.bind_eq_some_iff.mp h
      obtain ⟨others, hothers, h⟩ := Option.bind_eq_some_iff.mp h
      obtain rfl := Option.some.inj h
      rcases List.mem_cons.mp hwords with rfl | hwords
      · exact ⟨p, List.mem_cons_self, hfirst⟩
      · obtain ⟨q, hq, hsimple⟩ := ih hothers hwords
        exact ⟨q, List.mem_cons_of_mem _ hq, hsimple⟩

/-- A word has no other characters than the line. -/
theorem mem_of_andCommands {line : List Char} {cs : List (List String)}
    (h : andCommands line = some cs) {words : List String} (hwords : words ∈ cs) {w : String}
    (hw : w ∈ words) {d : Char} (hd : d ∈ w.toList) (hamp : d ≠ '&') : d ∈ line := by
  obtain ⟨p, hp, hsimple⟩ := exists_of_mem_mapM h hwords
  exact (mem_of_mem_cutAnds hp (mem_of_simpleCommand hsimple hw hd) hamp).resolve_left
    List.not_mem_nil

end ShellWords
