import RequirePath.File.Listing
import RequirePath.Main
import RequirePath.Pipeline.Hook
import RequirePath.Proofs.Cache.Clearing
import RequirePath.Proofs.Cache.Confinement
import RequirePath.Proofs.Cache.Content
import RequirePath.Proofs.Cache.Failure
import RequirePath.Proofs.Cache.Freshness
import RequirePath.Proofs.Cache.Leftover
import RequirePath.Proofs.Cache.LifeCycle
import RequirePath.Proofs.Resolver
import RequirePath.Proofs.Resolver.Soundness
import RequirePath.Proofs.Resolver.Live
import RequirePath.Proofs.Cache.Room
import RequirePath.Proofs.Cache.Texts
import RequirePath.Proofs.Cache.Inaccessible
import RequirePath.Proofs.Cache.Prediction
import RequirePath.Proofs.Resolver.Locality
import RequirePath.Proofs.Resolver.Texts
import RequirePath.Proofs.Command.Agreement
import RequirePath.Proofs.Cache.Again
import RequirePath.Proofs.Walk.Termination
import RequirePath.Proofs.Walk.Restriction
import RequirePath.Proofs.Walk.Order
import RequirePath.Proofs.Resolver.Spellings
import RequirePath.Proofs.Pipeline.TapOrder
import RequirePath.Proofs.Config.Layers
import RequirePath.Proofs.Cache.Stranded
import RequirePath.Proofs.Cache.StaleLock
import RequirePath.Proofs.Log.Lines
import RequirePath.Proofs.Path.Nesting
import RequirePath.Proofs.Config.Zones
