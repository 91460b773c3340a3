import AxiAlu.Clocked.Machine
import AxiAlu.Clocked.History
import AxiAlu.Clocked.Numbered
import AxiAlu.Clocked.Progress
import AxiAlu.Clocked.Sequential
import AxiAlu.Metatheory.Division
import AxiAlu.Metatheory.AluCoreOperations
import AxiAlu.Metatheory.EngineRefinement
import AxiAlu.Metatheory.BankAluOperations
import AxiAlu.Metatheory.SlaveSteps
import AxiAlu.Metatheory.SlaveWriteChannel
import AxiAlu.Metatheory.SlaveReadChannel
import AxiAlu.Metatheory.SlaveTiming
import AxiAlu.Metatheory.SlaveProgress
import AxiAlu.Metatheory.BridgeSteps
import AxiAlu.Metatheory.HandshakeStability
import AxiAlu.Metatheory.BridgeConservation
import AxiAlu.Metatheory.BridgeRecovery
import AxiAlu.Metatheory.BankHistory
import AxiAlu.Metatheory.Linearizability
import AxiAlu.Metatheory.Lockstep
import AxiAlu.Metatheory.AcceleratorTimeline
import AxiAlu.Metatheory.BusObservations
import AxiAlu.Metatheory.BusReads
import AxiAlu.Metatheory.PhaseLock
import AxiAlu.Metatheory.StartPacing
import AxiAlu.Metatheory.BusStatus
import AxiAlu.Metatheory.BusTrace
import AxiAlu.Software.Driver
import AxiAlu.Metatheory.DeviceSimulation
import AxiAlu.Metatheory.AcceleratorAccess
import AxiAlu.Metatheory.DriverCorrectness
import AxiAlu.Software.Meaning
import AxiAlu.Software.TestProgram
import AxiAlu.Metatheory.ProgramMeaning
import AxiAlu.Metatheory.TestProgramCorrectness
import AxiAlu.Metatheory.DriverContract
import AxiAlu.Metatheory.BridgeOverStore
import AxiAlu.Rtl.SlaveBankAlu
import AxiAlu.Metatheory.AxiPolling
import AxiAlu.Clocked.Reset
import AxiAlu.Rtl.ResetController
import AxiAlu.Metatheory.ResetSequence
import AxiAlu.Clocked.Bench
import AxiAlu.Testbench.Random
import AxiAlu.Testbench.RegisterBank
import AxiAlu.Metatheory.RegisterBankTestbench
import AxiAlu.Testbench.Slave
import AxiAlu.Metatheory.SlaveTestbench
import AxiAlu.Testbench.Bridge
import AxiAlu.Metatheory.BridgeTestbench
import AxiAlu.Metatheory.RandomStimulus
