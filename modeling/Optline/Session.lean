import Optline.Manifest

/-!
# Sessions

A session is what one run of the program works with: the commands and the settings that follow from
the manifest, if there is one, and from the wish not to be measured.

* `Session` — registry, settings and the manifest's path.
* `Session.ofManifest` — the session of a manifest.
* `Session.openAt` — the session of a manifest file, or of none.
* `Session.dispatcher` — the dispatcher that a session starts with.
-/

namespace Optline

/-- What one run of the program works with. -/
structure Session where
  registry : Registry Handler
  settings : Settings
  /-- The path of the manifest. -/
  source : Option String := none
  /-- What arose while the commands were registered. -/
  notices : List Notice := []

/-- The settings that a manifest asks for; the wish not to be measured goes before it. -/
def Manifest.settings (m : Manifest) (noProfile : Bool) : Settings where
  profile := m.profile.getD true && !noProfile
  noiseFloor := m.noiseFloor.getD 10

namespace Session

/-- The session of a manifest. -/
def ofManifest (m : Manifest) (noProfile : Bool) : Except ManifestError Session :=
  m.registry.map fun (registry, notices) =>
    { registry, settings := m.settings noProfile, notices }

/-- The path of the manifest: the one that is given, or else the one that the environment names,
unless that is blank. -/
def manifestPath (given fromEnvironment : Option String) : Option String :=
  given <|> fromEnvironment.filter (!Text.isBlankText ·)

/-- The session of the manifest at a path, or of no manifest. -/
def openAt (files : Files) (path : Option String) (noProfile : Bool) :
    Except ManifestError Session := do
  let m ←
    match path with
    | some p => Manifest.load files p
    | none => .ok {}
  let session ← ofManifest m noProfile
  pure { session with source := path }

/-- The dispatcher that a session starts with. -/
def dispatcher (s : Session) (observe : Nat → Observation) : Dispatcher where
  registry := s.registry
  settings := s.settings
  observe := observe

end Session

end Optline
