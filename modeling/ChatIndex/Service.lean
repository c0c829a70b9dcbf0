import ChatIndex.Http.Routes
import ChatIndex.Sync

/-! # The service as configured

Every part of the service works on the indices that the configuration names.
-/

namespace ChatIndex.Service

/-- What the synchronisation needs to know of the configuration. -/
def syncSettings (config : Config) : SyncSettings :=
  ⟨config.indices, config.displayNameScope⟩

/-- Handles a room event. -/
def handle (config : Config) (event : RoomEvent) : Program Unit :=
  Sync.handle (syncSettings config) event

/-- Carries out a change. -/
def apply (config : Config) (c : Change) : Attempt CallError SyncOutcome :=
  Sync.apply (syncSettings config) c

/-- Creates and fills the indices that are missing. -/
def bootstrap (config : Config) : Attempt CallError BootstrapReport :=
  Bootstrap.run config.backfillBatchSize config.indices

/-- Searches for a text on behalf of a user. -/
def search (config : Config) (text userId : String) (email : Option String) :
    Attempt QueryError Search.Results :=
  Search.run config.indices text userId email

/-- Answers a request over HTTP. -/
def respond (config : Config) (now : String) (r : Http.Request) : Program Http.Response :=
  Http.respond config now r

end ChatIndex.Service
