import HackArena.Local.MapAssets

/-!
# Streams of asset files

A backend serves the file of an asset from an offset on, in messages that
each carry the offset of their data and say whether they are the last. The
length of the file is looked up before it is opened, and a read may bring
less than there is room for. The messages of a file that stays the same are
the file again, both for who puts them together and for the loop with which
a local backend writes them into its cache.
-/

namespace HackArena.Services

open FileStore HackArena.Local HackArena.Local.MapAssets

inductive IoError where
  | notFound | other
  deriving DecidableEq, Repr

/-- The file of an asset as it answers to the calls of a request. The read
with a number and some room brings up to so many bytes and one, or fails. -/
structure AssetFile where
  metadata : Except IoError ℕ
  hash : Option String
  opened : Except IoError Unit
  seeks : Bool
  content : List UInt8
  reads : ℕ → ℕ → Option ℕ

/-- What decides whether a request gets as far as its file. -/
structure AssetAccess where
  localSync : Bool
  mapId : Except Status Unit
  cached : Except Status Unit
  servingEnabled : Bool
  file : Except Status AssetFile

structure ChunkStream where
  chunks : List GlbChunk
  failure : Option Status
  deriving DecidableEq, Repr

def ChunkStream.cons (chunk : GlbChunk) (stream : ChunkStream) : ChunkStream :=
  { stream with chunks := chunk :: stream.chunks }

def defaultChunkSize : ℕ := 64 * 1024

def maxChunkSize : ℕ := 2 * 1024 * 1024

def chooseChunkSize (requested : ℕ) : Except Status ℕ :=
  if requested = 0 then .ok defaultChunkSize
  else if maxChunkSize < requested then .error ⟨.invalidArgument, "limit too large"⟩
  else .ok requested

def fileIoError : Status := ⟨.internal, "file IO error"⟩

def ioStatus (missing : Status) : IoError → Status
  | .notFound => missing
  | .other => fileIoError

section Producer

variable (f : AssetFile) (totalLen chunkSize : ℕ)

/-- The loop over the reads of an open file. -/
def readChunks : ℕ → ℕ → ℕ → Option ChunkStream
  | 0, _, _ => none
  | fuel + 1, round, pos =>
      match f.reads round chunkSize with
      | none => some ⟨[], some fileIoError⟩
      | some more =>
          let data := (f.content.drop pos).take (more + 1)
          if data = [] then some ⟨[⟨pos, [], true⟩], none⟩
          else if totalLen ≤ pos + data.length then some ⟨[⟨pos, data, true⟩], none⟩
          else (readChunks fuel (round + 1) (pos + data.length)).map
            (ChunkStream.cons ⟨pos, data, false⟩)

def openAndRead (openError : IoError → Status) (offset fuel : ℕ) : Option ChunkStream :=
  match f.opened with
  | .error e => some ⟨[], some (openError e)⟩
  | .ok () =>
      if f.seeks then readChunks f totalLen chunkSize fuel 0 offset
      else some ⟨[], some fileIoError⟩

end Producer

def endOfFile (offset : ℕ) : ChunkStream := ⟨[⟨offset, [], true⟩], none⟩

def mapGlbNotFound : Status := ⟨.notFound, "map glb not found"⟩

def streamMapAssetGlb (access : AssetAccess) (offset limit fuel : ℕ) :
    Except Status (Option ChunkStream) := do
  if access.localSync then
    throw ⟨.unimplemented, "StreamMapAssetGlb is not supported on local backend"⟩
  access.mapId
  if !access.servingEnabled then throw mapGlbNotFound
  let f ← access.file
  let totalLen ← f.metadata.mapError (ioStatus mapGlbNotFound)
  if totalLen ≤ offset then return some (endOfFile offset)
  let chunkSize ← chooseChunkSize limit
  return openAndRead f totalLen chunkSize (ioStatus mapGlbNotFound) offset fuel

def mapAssetNotFound : Status := ⟨.notFound, "map asset not found"⟩

def checkHash (f : AssetFile) (ifMatchHash : String) : Except Status Unit :=
  if ifMatchHash = "" then .ok ()
  else match f.hash with
    | none => .error ⟨.internal, "hash compute failed"⟩
    | some hash =>
        if ifMatchHash = hash then .ok ()
        else .error ⟨.failedPrecondition, "hash mismatch"⟩

/-- Here a file that cannot be opened is a missing one, whatever the error. -/
def getMapAsset (access : AssetAccess) (offset limit : ℕ) (ifMatchHash : String) (fuel : ℕ) :
    Except Status (Option ChunkStream) := do
  access.mapId
  access.cached
  if !access.servingEnabled then throw mapAssetNotFound
  let f ← access.file
  let totalLen ← f.metadata.mapError (ioStatus mapAssetNotFound)
  checkHash f ifMatchHash
  if totalLen ≤ offset then return some (endOfFile offset)
  let chunkSize ← chooseChunkSize limit
  return openAndRead f totalLen chunkSize (fun _ => mapAssetNotFound) offset fuel

/-! ## Messages that are the file again -/

/-- Every chunk begins where the one before it ends, the first at `pos`. -/
def Contiguous : ℕ → List GlbChunk → Prop
  | _, [] => True
  | pos, chunk :: chunks => chunk.offset = pos ∧ Contiguous (pos + chunk.data.length) chunks

/-- The last chunk says that it is the last, and no other does. -/
def EofAtEnd (chunks : List GlbChunk) : Prop :=
  ∃ n, chunks.map GlbChunk.eof = List.replicate n false ++ [true]

theorem EofAtEnd.cons {chunk : GlbChunk} {chunks : List GlbChunk} (hchunk : chunk.eof = false)
    (h : EofAtEnd chunks) : EofAtEnd (chunk :: chunks) := by
  obtain ⟨n, hn⟩ := h
  exact ⟨n + 1, by rw [List.map_cons, hn, hchunk, List.replicate_succ, List.cons_append]⟩

theorem EofAtEnd.exists_cons {chunks : List GlbChunk} (h : EofAtEnd chunks) :
    ∃ chunk rest, chunks = chunk :: rest ∧
      (chunk.eof = true ∧ rest = [] ∨ chunk.eof = false ∧ EofAtEnd rest) := by
  obtain ⟨n, hn⟩ := h
  cases chunks with
  | nil => simp at hn
  | cons chunk rest =>
      refine ⟨chunk, rest, rfl, ?_⟩
      cases n with
      | zero =>
          obtain ⟨heof, hrest⟩ := List.cons.inj hn
          exact .inl ⟨heof, List.map_eq_nil_iff.mp hrest⟩
      | succ n =>
          obtain ⟨heof, hrest⟩ := List.cons.inj hn
          exact .inr ⟨heof, n, hrest⟩

structure Reassembles (content : List UInt8) (offset : ℕ) (chunks : List GlbChunk) : Prop where
  contiguous : Contiguous offset chunks
  data : chunks.flatMap GlbChunk.data = content.drop offset
  eof : EofAtEnd chunks

theorem Reassembles.cons {content data : List UInt8} {pos : ℕ} {chunks : List GlbChunk}
    (hdata : content.drop pos = data ++ content.drop (pos + data.length))
    (h : Reassembles content (pos + data.length) chunks) :
    Reassembles content pos (⟨pos, data, false⟩ :: chunks) where
  contiguous := ⟨rfl, h.contiguous⟩
  data := by rw [List.flatMap_cons, h.data, ← hdata]
  eof := h.eof.cons rfl

/-- The last chunk has all that is left. -/
theorem reassembles_last {content data : List UInt8} {pos : ℕ} (hdata : data = content.drop pos) :
    Reassembles content pos [⟨pos, data, true⟩] where
  contiguous := ⟨rfl, trivial⟩
  data := by simpa using hdata
  eof := ⟨0, rfl⟩

theorem reassembles_endOfFile {content : List UInt8} {offset : ℕ} (h : content.length ≤ offset) :
    Reassembles content offset (endOfFile offset).chunks :=
  reassembles_last (List.drop_eq_nil_of_le h).symm

/-- A file of which nothing fails and that has the length it was said to have. -/
structure AssetFile.Steady (f : AssetFile) : Prop where
  metadata : f.metadata = .ok f.content.length
  opened : f.opened = .ok ()
  seeks : f.seeks = true
  reads : ∀ round room, f.reads round room ≠ none

section Steady

variable {f : AssetFile} {chunkSize fuel offset : ℕ}

theorem readChunks_reassembles (hreads : ∀ round room, f.reads round room ≠ none) {round pos : ℕ}
    (hpos : pos < f.content.length) (hfuel : f.content.length - pos ≤ fuel) :
    ∃ chunks, readChunks f f.content.length chunkSize fuel round pos = some ⟨chunks, none⟩ ∧
      Reassembles f.content pos chunks := by
  induction fuel generalizing round pos with
  | zero => omega
  | succ fuel ih =>
      obtain ⟨more, hmore⟩ := Option.ne_none_iff_exists'.mp (hreads round chunkSize)
      have hlength : ((f.content.drop pos).take (more + 1)).length =
          min (more + 1) (f.content.length - pos) := by
        rw [List.length_take, List.length_drop]
      have hne : (f.content.drop pos).take (more + 1) ≠ [] := by
        intro hnil
        rw [hnil, List.length_nil] at hlength
        omega
      have hsplit : f.content.drop pos = (f.content.drop pos).take (more + 1) ++
          f.content.drop (pos + ((f.content.drop pos).take (more + 1)).length) := by
        rw [← List.drop_drop]
        exact (List.prefix_iff_eq_append.mp (List.take_prefix _ _)).symm
      simp only [readChunks, hmore, hne, if_false]
      generalize (f.content.drop pos).take (more + 1) = data at hlength hsplit
      split
      · rename_i hlast
        refine ⟨_, rfl, reassembles_last ?_⟩
        rw [hsplit, List.drop_eq_nil_of_le hlast, List.append_nil]
      · rename_i hrest
        have hpos' : pos + data.length < f.content.length := by omega
        have hfuel' : f.content.length - (pos + data.length) ≤ fuel := by omega
        obtain ⟨chunks, hchunks, hreassembles⟩ := @ih (round + 1) _ hpos' hfuel'
        exact ⟨_, by rw [hchunks]; rfl, hreassembles.cons hsplit⟩

theorem openAndRead_reassembles (hf : f.Steady) (openError : IoError → Status)
    (hoffset : offset < f.content.length) (hfuel : f.content.length ≤ fuel) :
    ∃ chunks, openAndRead f f.content.length chunkSize openError offset fuel =
        some ⟨chunks, none⟩ ∧
      Reassembles f.content offset chunks := by
  simp only [openAndRead, hf.opened, hf.seeks, if_true]
  exact readChunks_reassembles hf.reads hoffset (by omega)

/-- A request that finds its file. -/
structure AssetAccess.Grants (access : AssetAccess) (f : AssetFile) : Prop where
  mapId : access.mapId = .ok ()
  cached : access.cached = .ok ()
  servingEnabled : access.servingEnabled = true
  file : access.file = .ok f

variable {access : AssetAccess} {limit : ℕ} (offset)

theorem streamMapAssetGlb_reassembles (hf : f.Steady) (h : access.Grants f)
    (hlocal : access.localSync = false) (hlimit : chooseChunkSize limit = .ok chunkSize)
    (hfuel : f.content.length ≤ fuel) :
    ∃ chunks, streamMapAssetGlb access offset limit fuel = .ok (some ⟨chunks, none⟩) ∧
      Reassembles f.content offset chunks := by
  by_cases hend : f.content.length ≤ offset
  · have hanswer : streamMapAssetGlb access offset limit fuel = .ok (some (endOfFile offset)) := by
      simp [streamMapAssetGlb, hlocal, h.mapId, h.servingEnabled, h.file, hf.metadata,
        Except.mapError, hend, bind, Except.bind, pure, Except.pure]
    exact ⟨_, hanswer, reassembles_endOfFile hend⟩
  · have hanswer : streamMapAssetGlb access offset limit fuel =
        .ok (openAndRead f f.content.length chunkSize (ioStatus mapGlbNotFound) offset fuel) := by
      simp [streamMapAssetGlb, hlocal, h.mapId, h.servingEnabled, h.file, hf.metadata,
        Except.mapError, hend, hlimit, bind, Except.bind, pure, Except.pure]
    obtain ⟨chunks, hchunks, hreassembles⟩ :=
      openAndRead_reassembles hf (ioStatus mapGlbNotFound) (Nat.lt_of_not_le hend) hfuel
    exact ⟨chunks, hanswer.trans (congrArg Except.ok hchunks), hreassembles⟩

theorem getMapAsset_reassembles (hf : f.Steady) (h : access.Grants f) {ifMatchHash : String}
    (hhash : ifMatchHash = "" ∨ f.hash = some ifMatchHash)
    (hlimit : chooseChunkSize limit = .ok chunkSize) (hfuel : f.content.length ≤ fuel) :
    ∃ chunks, getMapAsset access offset limit ifMatchHash fuel = .ok (some ⟨chunks, none⟩) ∧
      Reassembles f.content offset chunks := by
  have hchecked : checkHash f ifMatchHash = .ok () := by
    obtain rfl | hhash := hhash
    · rfl
    · simp [checkHash, hhash]
  by_cases hend : f.content.length ≤ offset
  · have hanswer : getMapAsset access offset limit ifMatchHash fuel =
        .ok (some (endOfFile offset)) := by
      simp [getMapAsset, h.mapId, h.cached, h.servingEnabled, h.file, hf.metadata, hchecked,
        Except.mapError, hend, bind, Except.bind, pure, Except.pure]
    exact ⟨_, hanswer, reassembles_endOfFile hend⟩
  · have hanswer : getMapAsset access offset limit ifMatchHash fuel =
        .ok (openAndRead f f.content.length chunkSize (fun _ => mapAssetNotFound) offset fuel) := by
      simp [getMapAsset, h.mapId, h.cached, h.servingEnabled, h.file, hf.metadata, hchecked,
        Except.mapError, hend, hlimit, bind, Except.bind, pure, Except.pure]
    obtain ⟨chunks, hchunks, hreassembles⟩ :=
      openAndRead_reassembles hf (fun _ => mapAssetNotFound) (Nat.lt_of_not_le hend) hfuel
    exact ⟨chunks, hanswer.trans (congrArg Except.ok hchunks), hreassembles⟩

end Steady

/-! ## The loop that receives them -/

/-- A stream on its way to the cache. -/
structure Feed where
  stream : ChunkStream
  cache : MapState

section Consumer

variable (remote : Remote)

/-- The messages are those of the stream; a message may also fail. -/
def feedExec (s : Feed) : (op : MapOp) → MapInput → Feed × op.Answer
  | .message .., i =>
      if i.fails then (s, .error i.error)
      else match s.stream.chunks, s.stream.failure with
        | chunk :: chunks, _ => ({ s with stream := { s.stream with chunks } }, .ok (some chunk))
        | [], none => (s, .ok none)
        | [], some status => (s, .error status.message)
  | op, i => ({ s with cache := (exec remote s.cache op i).1 }, (exec remote s.cache op i).2)

/-- What the cache has of the asset so far. -/
def Feed.written (s : Feed) (file : CacheFile) : Option (List UInt8) :=
  (s.cache.disk.current (tmpPathFor file)).map File.content

def Succeeds (_ : Feed) (_ : MapOp) (i : MapInput) : Prop := i.fails = false

variable {remote} {mapId : String} {kind : AssetKind}

theorem feedExec_message {s : Feed} {chunk : GlbChunk} {chunks : List GlbChunk}
    (hstream : s.stream = ⟨chunk :: chunks, none⟩) {input : MapInput}
    (hinput : input.fails = false) :
    feedExec remote s (.message mapId kind) input =
      ({ s with stream := ⟨chunks, none⟩ }, .ok (some chunk)) := by
  simp [feedExec, hinput, hstream]

theorem answer_writeAll {s : Feed} {file : CacheFile} {bytes : List UInt8} {input : MapInput}
    (hinput : input.fails = false) :
    (feedExec remote s (.writeAll file bytes) input).2 = .ok () := by
  simp [feedExec, exec, ioResult, hinput]

variable (remote) in
theorem written_writeAll {s : Feed} {got : List UInt8} {file : CacheFile}
    (h : s.written file = some got) (bytes : List UInt8) {input : MapInput}
    (hinput : input.fails = false) :
    (feedExec remote s (.writeAll (tmpPathFor file) bytes) input).1.written file =
      some (got ++ bytes) := by
  obtain ⟨old, hold, rfl⟩ := Option.map_eq_some_iff.mp h
  simp only [feedExec, exec, hinput, Feed.written]
  rw [Disk.current_append hold]
  rfl

/-- What the loop has written when it ends well, whichever calls failed. -/
theorem receiveChunks_writes {chunks : List GlbChunk} {s : Feed} {got : List UInt8}
    (heof : EofAtEnd chunks) (hstream : s.stream = ⟨chunks, none⟩)
    (hgot : s.written (asset mapId kind) = some got) (fuel pos : ℕ) :
    (receiveChunks mapId kind fuel pos).Ensures (feedExec remote)
      (fun outcome t => outcome = .ok →
        t.written (asset mapId kind) = some (got ++ chunks.flatMap GlbChunk.data)) s := by
  induction fuel generalizing chunks s got pos with
  | zero => exact fun hok => by cases hok
  | succ fuel ih =>
      obtain ⟨chunk, rest, rfl, hchunk⟩ := heof.exists_cons
      refine .call fun input => ?_
      cases hmessage : input.fails with
      | true =>
          simp only [feedExec, hmessage, if_true]
          exact fun hok => by cases hok
      | false =>
          rw [feedExec_message hstream hmessage]
          dsimp only
          split
          · exact fun hok => by cases hok
          · refine .call fun input' => ?_
            cases hwrite : input'.fails with
            | true =>
                simp only [feedExec, exec, ioResult, hwrite, if_true]
                exact fun hok => by cases hok
            | false =>
                let inner : Feed := { s with stream := ⟨rest, none⟩ }
                have hinner : inner.written (asset mapId kind) = some got := hgot
                have hnext := written_writeAll remote hinner chunk.data hwrite
                rw [answer_writeAll hwrite, List.flatMap_cons, ← List.append_assoc]
                dsimp only
                obtain ⟨hlast, rfl⟩ | ⟨hmore, hrest⟩ := hchunk
                · rw [if_pos hlast]
                  intro _
                  rw [hnext, List.flatMap_nil, List.append_nil]
                · rw [hmore]
                  exact ih hrest rfl hnext _

/-- While no call fails, the loop takes the stream to its end. -/
theorem receiveChunks_ok {chunks : List GlbChunk} {s : Feed} {pos : ℕ}
    (heof : EofAtEnd chunks) (hcontiguous : Contiguous pos chunks)
    (hstream : s.stream = ⟨chunks, none⟩) {fuel : ℕ} (hfuel : chunks.length ≤ fuel) :
    (receiveChunks mapId kind fuel pos).EnsuresGiven (feedExec remote) Succeeds
      (fun outcome _ => outcome = .ok) s := by
  induction fuel generalizing chunks s pos with
  | zero =>
      obtain ⟨chunk, rest, rfl, -⟩ := heof.exists_cons
      simp at hfuel
  | succ fuel ih =>
      obtain ⟨chunk, rest, rfl, hchunk⟩ := heof.exists_cons
      refine .call fun input hinput => ?_
      rw [feedExec_message hstream hinput]
      dsimp only
      rw [if_neg (not_not.mpr hcontiguous.1)]
      refine .call fun input' hinput' => ?_
      rw [answer_writeAll hinput']
      dsimp only
      obtain ⟨hlast, rfl⟩ | ⟨hmore, hrest⟩ := hchunk
      · rw [if_pos hlast]
        exact rfl
      · rw [hmore]
        exact ih hrest hcontiguous.2 rfl (Nat.le_of_succ_le_succ hfuel)

variable (remote mapId kind) in
/-- However a local backend receives the messages, it has the content when
the loop ends well, and it ends well if no call fails. -/
def Received (chunks : List GlbChunk) (content : List UInt8) : Prop :=
  ∀ (cache : MapState) (inputs : ℕ → MapInput) (fuel : ℕ),
    let s : Feed := ⟨⟨chunks, none⟩, cache⟩
    let loop := receiveChunks mapId kind fuel 0
    s.written (asset mapId kind) = some [] → chunks.length ≤ fuel →
      ((loop.run (feedExec remote) inputs s).2 = .ok →
        (loop.run (feedExec remote) inputs s).1.written (asset mapId kind) = some content) ∧
      (loop.Meets (feedExec remote) Succeeds inputs s →
        (loop.run (feedExec remote) inputs s).2 = .ok)

theorem Reassembles.received {content : List UInt8} {chunks : List GlbChunk}
    (h : Reassembles content 0 chunks) : Received remote mapId kind chunks content := by
  intro cache inputs fuel s loop hempty hfuel
  refine ⟨fun hok => ?_, fun hmeets => ?_⟩
  · have hwrites : loop.Ensures (feedExec remote) (fun outcome t => outcome = .ok →
        t.written (asset mapId kind) = some ([] ++ chunks.flatMap GlbChunk.data)) s :=
      receiveChunks_writes h.eof rfl hempty fuel 0
    have hwritten := hwrites.run inputs hok
    rw [h.data, List.drop_zero, List.nil_append] at hwritten
    exact hwritten
  · exact (receiveChunks_ok h.eof h.contiguous rfl hfuel).run hmeets

/-- The messages of a steady file are its content from the offset on, for
both requests, and from the beginning on the file is what is received. -/
theorem asset_streams_reassemble {f : AssetFile} (hf : f.Steady) {access : AssetAccess}
    (haccess : access.Grants f) {limit chunkSize : ℕ}
    (hlimit : chooseChunkSize limit = .ok chunkSize) (offset : ℕ) {fuel : ℕ}
    (hfuel : f.content.length ≤ fuel) :
    (access.localSync = false →
      ∃ chunks, streamMapAssetGlb access offset limit fuel = .ok (some ⟨chunks, none⟩) ∧
        Reassembles f.content offset chunks ∧
        (offset = 0 → ∀ remote mapId kind, Received remote mapId kind chunks f.content)) ∧
    (∀ ifMatchHash, ifMatchHash = "" ∨ f.hash = some ifMatchHash →
      ∃ chunks, getMapAsset access offset limit ifMatchHash fuel = .ok (some ⟨chunks, none⟩) ∧
        Reassembles f.content offset chunks) := by
  refine ⟨fun hlocal => ?_, fun ifMatchHash hhash => ?_⟩
  · obtain ⟨chunks, hchunks, hreassembles⟩ :=
      streamMapAssetGlb_reassembles offset hf haccess hlocal hlimit hfuel
    refine ⟨chunks, hchunks, hreassembles, ?_⟩
    rintro rfl remote mapId kind
    exact hreassembles.received
  · exact getMapAsset_reassembles offset hf haccess hhash hlimit hfuel

end Consumer

/-- Three bytes that are read one at a time. -/
def threeBytes : AssetFile := ⟨.ok 3, some "h", .ok (), true, [7, 8, 9], fun _ _ => some 0⟩

theorem asset_streams_reassemble_threeBytes :
    ∃ chunks, streamMapAssetGlb ⟨false, .ok (), .ok (), true, .ok threeBytes⟩ 0 2 3 =
        .ok (some ⟨chunks, none⟩) ∧
      Reassembles [7, 8, 9] 0 chunks := by
  have hsteady : threeBytes.Steady := ⟨rfl, rfl, rfl, fun _ _ => Option.some_ne_none 0⟩
  have hgrants : AssetAccess.Grants ⟨false, .ok (), .ok (), true, .ok threeBytes⟩ threeBytes :=
    ⟨rfl, rfl, rfl, rfl⟩
  have hlimit : chooseChunkSize 2 = .ok 2 := rfl
  obtain ⟨chunks, hchunks, hreassembles, -⟩ :=
    (asset_streams_reassemble hsteady hgrants hlimit 0 (le_refl 3)).1 rfl
  exact ⟨chunks, hchunks, hreassembles⟩

end HackArena.Services
