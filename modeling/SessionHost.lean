import SessionHost.Client.Operation
import SessionHost.Engine.Recording
import SessionHost.Main
import SessionHost.Proofs.CleanLines
import SessionHost.Proofs.ConfigDocuments
import SessionHost.Proofs.Creations
import SessionHost.Proofs.Delivery
import SessionHost.Proofs.Disposition
import SessionHost.Proofs.FailedCreations
import SessionHost.Proofs.LateSignals
import SessionHost.Proofs.Publication
import SessionHost.Proofs.Separation
import SessionHost.Proofs.TableHistory
import SessionHost.Proofs.Tally
import SessionHost.Proofs.Teardown
import SessionHost.Proofs.Transcript
import SessionHost.Proofs.Reports
import SessionHost.Proofs.ReadFaults
import SessionHost.Proofs.Farewell
import SessionHost.Proofs.Draining
import SessionHost.Proofs.EndsOfInput
import SessionHost.Proofs.LongLines
import SessionHost.Proofs.Storage
import SessionHost.Proofs.Saving
import SessionHost.Proofs.FailedStarts
import SessionHost.Proofs.FirstExit
import SessionHost.Proofs.ConsoleTranscript
import SessionHost.Proofs.ArgumentPassing
