import FormDialogue.Unicode.Name.Run

/-! # Names of letters in alphabets

The names of the alphabets of Europe and of the Near East, with their marks, in runs of their
short form. -/

namespace FormDialogue.Unicode

def alphabetNames : List NameRun := [
  ⟨0x20, [
    "aSPACEaEXCLAMATION MARKaQUOTATIONnaNUMBER SIGNaDOLLARnaPERCENTnaAMPERSANDaAPOSTROPHE",
    "aLEFT PARENTHESISaRIGHTnaASTERISKaPLUS SIGNaCOMMAaHYPHEN-MINUSaFULL STOPaSOLIDUSaDIGIT ZERO",
    "bONEbTWObTHREEbFOURbFIVEbSIXbSEVENbEIGHTbNINEaCOLONaSEMICOLONaLESS-THAN SIGNaEQUALSn",
    "aGREATER-THANnaQUESTION MARKaCOMMERCIAL ATaLATIN CAPITAL LETTER AdBdCdDdEdFdGdHdIdJdKdLdMdN",
    "dOdPdQdRdSdTdUdVdWdXdYdZaLEFT SQUARE BRACKETaREVERSE SOLIDUSaRIGHT SQUARE BRACKET",
    "aCIRCUMFLEX ACCENTaLOW LINEaGRAVE ACCENTaLATIN SMALL LETTER AdBdCdDdEdFdGdHdIdJdKdLdMdNdOdP",
    "dQdRdSdTdUdVdWdXdYdZaLEFT CURLY BRACKETaVERTICAL LINEaRIGHT CURLY BRACKETaTILDE"]⟩,
  ⟨0xA0, [
    "aNO-BREAK SPACEaINVERTED EXCLAMATION MARKaCENT SIGNaPOUNDnaCURRENCYnaYENnaBROKEN BAR",
    "aSECTION SIGNaDIAERESISaCOPYRIGHT SIGNaFEMININE ORDINAL INDICATOR",
    "aLEFT-POINTING DOUBLE ANGLE QUOTATION MARKaNOT SIGNaSOFT HYPHENaREGISTERED SIGNaMACRON",
    "aDEGREE SIGNaPLUS-MINUSnaSUPERSCRIPT TWObTHREEaACUTE ACCENTaMICRO SIGNaPILCROWnaMIDDLE DOT",
    "aCEDILLAaSUPERSCRIPT ONEaMASCULINE ORDINAL INDICATOR",
    "aRIGHT-POINTING DOUBLE ANGLE QUOTATION MARKaVULGAR FRACTION ONE QUARTERdHALFcTHREE QUARTERS",
    "aINVERTED QUESTION MARKaLATIN CAPITAL LETTER A WITH GRAVEfACUTEfCIRCUMFLEXfTILDEfDIAERESIS",
    "fRING ABOVEdAEdC WITH CEDILLAdE WITH GRAVEfACUTEfCIRCUMFLEXfDIAERESISdI WITH GRAVEfACUTE",
    "fCIRCUMFLEXfDIAERESISdETHdN WITH TILDEdO WITH GRAVEfACUTEfCIRCUMFLEXfTILDEfDIAERESIS",
    "aMULTIPLICATION SIGNaLATIN CAPITAL LETTER O WITH STROKEdU WITH GRAVEfACUTEfCIRCUMFLEX",
    "fDIAERESISdY WITH ACUTEdTHORNbSMALL LETTER SHARP SdA WITH GRAVEfACUTEfCIRCUMFLEXfTILDE",
    "fDIAERESISfRING ABOVEdAEdC WITH CEDILLAdE WITH GRAVEfACUTEfCIRCUMFLEXfDIAERESISdI WITH GRAVE",
    "fACUTEfCIRCUMFLEXfDIAERESISdETHdN WITH TILDEdO WITH GRAVEfACUTEfCIRCUMFLEXfTILDEfDIAERESIS",
    "aDIVISION SIGNaLATIN SMALL LETTER O WITH STROKEdU WITH GRAVEfACUTEfCIRCUMFLEXfDIAERESIS",
    "dY WITH ACUTEdTHORNdY WITH DIAERESISbCAPITAL LETTER A WITH MACRONbSMALLq",
    "bCAPITAL LETTER A WITH BREVEbSMALLqbCAPITAL LETTER A WITH OGONEKbSMALLq",
    "bCAPITAL LETTER C WITH ACUTEbSMALLqbCAPITAL LETTER C WITH CIRCUMFLEXbSMALLq",
    "bCAPITAL LETTER C WITH DOT ABOVEbSMALLrbCAPITAL LETTER C WITH CARONbSMALLqbCAPITAL LETTER Do",
    "bSMALLqbCAPITAL LETTER D WITH STROKEbSMALLqbCAPITAL LETTER E WITH MACRONbSMALLq",
    "bCAPITAL LETTER E WITH BREVEbSMALLqbCAPITAL LETTER E WITH DOT ABOVEbSMALLr",
    "bCAPITAL LETTER E WITH OGONEKbSMALLqbCAPITAL LETTER E WITH CARONbSMALLq",
    "bCAPITAL LETTER G WITH CIRCUMFLEXbSMALLqbCAPITAL LETTER G WITH BREVEbSMALLq",
    "bCAPITAL LETTER G WITH DOT ABOVEbSMALLrbCAPITAL LETTER G WITH CEDILLAbSMALLq",
    "bCAPITAL LETTER H WITH CIRCUMFLEXbSMALLqbCAPITAL LETTER H WITH STROKEbSMALLq",
    "bCAPITAL LETTER I WITH TILDEbSMALLqbCAPITAL LETTER I WITH MACRONbSMALLq",
    "bCAPITAL LETTER I WITH BREVEbSMALLqbCAPITAL LETTER I WITH OGONEKbSMALLq",
    "bCAPITAL LETTER I WITH DOT ABOVEbSMALL LETTER DOTLESS IbCAPITAL LIGATURE IJbSMALLo",
    "bCAPITAL LETTER J WITH CIRCUMFLEXbSMALLqbCAPITAL LETTER K WITH CEDILLAbSMALLqdKRA",
    "bCAPITAL LETTER L WITH ACUTEbSMALLqbCAPITAL LETTER L WITH CEDILLAbSMALLq",
    "bCAPITAL LETTER L WITH CARONbSMALLqbCAPITAL LETTER L WITH MIDDLE DOTbSMALLr",
    "bCAPITAL LETTER L WITH STROKEbSMALLqbCAPITAL LETTER N WITH ACUTEbSMALLq",
    "bCAPITAL LETTER N WITH CEDILLAbSMALLqbCAPITAL LETTER N WITH CARONbSMALLq",
    "ePRECEDED BY APOSTROPHEbCAPITAL LETTER ENGbSMALLobCAPITAL LETTER O WITH MACRONbSMALLq",
    "bCAPITAL LETTER O WITH BREVEbSMALLqbCAPITAL LETTER O WITH DOUBLE ACUTEbSMALLr",
    "bCAPITAL LIGATURE OEbSMALLobCAPITAL LETTER R WITH ACUTEbSMALLqbCAPITAL LETTER R WITH CEDILLA",
    "bSMALLqbCAPITAL LETTER R WITH CARONbSMALLqbCAPITAL LETTER S WITH ACUTEbSMALLq",
    "bCAPITAL LETTER S WITH CIRCUMFLEXbSMALLqbCAPITAL LETTER S WITH CEDILLAbSMALLq",
    "bCAPITAL LETTER S WITH CARONbSMALLqbCAPITAL LETTER T WITH CEDILLAbSMALLq",
    "bCAPITAL LETTER T WITH CARONbSMALLqbCAPITAL LETTER T WITH STROKEbSMALLq",
    "bCAPITAL LETTER U WITH TILDEbSMALLqbCAPITAL LETTER U WITH MACRONbSMALLq",
    "bCAPITAL LETTER U WITH BREVEbSMALLqbCAPITAL LETTER U WITH RING ABOVEbSMALLr",
    "bCAPITAL LETTER U WITH DOUBLE ACUTEbSMALLrbCAPITAL LETTER U WITH OGONEKbSMALLq",
    "bCAPITAL LETTER W WITH CIRCUMFLEXbSMALLqbCAPITAL LETTER YobSMALLq",
    "bCAPITAL LETTER Y WITH DIAERESISdZ WITH ACUTEbSMALLqbCAPITAL LETTER Z WITH DOT ABOVEbSMALLr",
    "bCAPITAL LETTER Z WITH CARONbSMALLqdLONG SdB WITH STROKEbCAPITAL LETTER B WITH HOOKfTOPBAR",
    "bSMALLqbCAPITAL LETTER TONE SIXbSMALLpbCAPITAL LETTER OPEN OdC WITH HOOKbSMALLq",
    "bCAPITAL LETTER AFRICAN DdD WITH HOOKfTOPBARbSMALLqdTURNED DELTAbCAPITAL LETTER REVERSED E",
    "dSCHWAdOPEN EdF WITH HOOKbSMALLqbCAPITAL LETTER GodGAMMAbSMALL LETTER HVbCAPITAL LETTER IOTA",
    "dI WITH STROKEdK WITH HOOKbSMALLqdL WITH BARdLAMBDA WITH STROKEbCAPITAL LETTER TURNED M",
    "dN WITH LEFT HOOKbSMALL LETTER N WITH LONG RIGHT LEGbCAPITAL LETTER O WITH MIDDLE TILDEfHORN",
    "bSMALLqbCAPITAL LETTER OIbSMALLobCAPITAL LETTER P WITH HOOKbSMALLqbLETTER YR",
    "bCAPITAL LETTER TONE TWObSMALLpbCAPITAL LETTER ESHbLETTER REVERSED ESH LOOP",
    "bSMALL LETTER T WITH PALATAL HOOKbCAPITAL LETTER T WITHnbSMALLq",
    "bCAPITAL LETTER T WITH RETROFLEXndU WITH HORNbSMALLqbCAPITAL LETTER UPSILONdV WITH HOOKdYo",
    "bSMALLqbCAPITAL LETTER Z WITH STROKEbSMALLqbCAPITAL LETTER EZHeREVERSEDbSMALLpeWITH TAIL",
    "bLETTER TWO WITH STROKEbCAPITAL LETTER TONE FIVEbSMALLp",
    "bLETTER INVERTED GLOTTAL STOP WITH STROKEcWYNNcDENTAL CLICKcLATERALncALVEOLARncRETROFLEXn",
    "bCAPITAL LETTER DZ WITH CARONdD WITH SMALL LETTER ZobSMALL LETTER DZobCAPITAL LETTER LJ",
    "dL WITH SMALL LETTER JbSMALL LETTER LJbCAPITAL LETTER NJdN WITH SMALL LETTER J",
    "bSMALL LETTER NJbCAPITAL LETTER A WITH CARONbSMALLqbCAPITAL LETTER IobSMALLq",
    "bCAPITAL LETTER OobSMALLqbCAPITAL LETTER UobSMALLq",
    "bCAPITAL LETTER U WITH DIAERESIS AND MACRONbSMALLsbCAPITAL LETTER U WITH DIAERESIS AND ACUTE",
    "bSMALLsbCAPITAL LETTER U WITH DIAERESIS AND CARONbSMALLs",
    "bCAPITAL LETTER U WITH DIAERESIS AND GRAVEbSMALLsdTURNED E",
    "bCAPITAL LETTER A WITH DIAERESIS AND MACRONbSMALLsbCAPITAL LETTER A WITH DOT ABOVEobSMALLt",
    "bCAPITAL LETTER AE WITHnbSMALLqbCAPITAL LETTER G WITH STROKEbSMALLq",
    "bCAPITAL LETTER G WITH CARONbSMALLqbCAPITAL LETTER KobSMALLqbCAPITAL LETTER O WITH OGONEK",
    "bSMALLqbCAPITAL LETTER O WITH OGONEK AND MACRONbSMALLsbCAPITAL LETTER EZH WITH CARONbSMALLq",
    "dJobCAPITAL LETTER DZdD WITH SMALL LETTER ZbSMALL LETTER DZbCAPITAL LETTER G WITH ACUTE",
    "bSMALLqbCAPITAL LETTER HWAIRdWYNNdN WITH GRAVEbSMALLq",
    "bCAPITAL LETTER A WITH RING ABOVE AND ACUTEbSMALLtbCAPITAL LETTER AE WITHnbSMALLq",
    "bCAPITAL LETTER O WITH STROKE ANDnbSMALLsbCAPITAL LETTER A WITH DOUBLE GRAVEbSMALLr",
    "bCAPITAL LETTER A WITH INVERTED BREVEbSMALLrbCAPITAL LETTER E WITH DOUBLE GRAVEbSMALLr",
    "bCAPITAL LETTER E WITH INVERTED BREVEbSMALLrbCAPITAL LETTER I WITH DOUBLE GRAVEbSMALLr",
    "bCAPITAL LETTER I WITH INVERTED BREVEbSMALLrbCAPITAL LETTER O WITH DOUBLE GRAVEbSMALLr",
    "bCAPITAL LETTER O WITH INVERTED BREVEbSMALLrbCAPITAL LETTER R WITH DOUBLE GRAVEbSMALLr",
    "bCAPITAL LETTER R WITH INVERTED BREVEbSMALLrbCAPITAL LETTER U WITH DOUBLE GRAVEbSMALLr",
    "bCAPITAL LETTER U WITH INVERTED BREVEbSMALLrbCAPITAL LETTER S WITH COMMA BELOWbSMALLr",
    "bCAPITAL LETTER TpbSMALLrbCAPITAL LETTER YOGHbSMALLobCAPITAL LETTER H WITH CARONbSMALLq",
    "bCAPITAL LETTER N WITH LONG RIGHT LEGbSMALL LETTER D WITH CURLbCAPITAL LETTER OUbSMALLo",
    "bCAPITAL LETTER Z WITH HOOKbSMALLqbCAPITAL LETTER A WITH DOT ABOVEbSMALLr",
    "bCAPITAL LETTER E WITH CEDILLAbSMALLqbCAPITAL LETTER O WITH DIAERESIS AND MACRONbSMALLs",
    "bCAPITAL LETTER O WITH TILDEobSMALLsbCAPITAL LETTER O WITH DOT ABOVEbSMALLr",
    "bCAPITAL LETTER O WITH DOT ABOVE AND MACRONbSMALLtbCAPITAL LETTER Y WITHnbSMALLqdL WITH CURL",
    "dNodTodDOTLESS JdDB DIGRAPHdQPnbCAPITAL LETTER A WITH STROKEdCobSMALLq",
    "bCAPITAL LETTER L WITH BARdT WITH DIAGONAL STROKEbSMALL LETTER S WITH SWASH TAILdZp",
    "bCAPITAL LETTER GLOTTAL STOPbSMALLpbCAPITAL LETTER B WITH STROKEdU BARdTURNED V",
    "dE WITH STROKEbSMALLqbCAPITAL LETTER JobSMALLqbCAPITAL LETTER SMALL Q WITH HOOK TAIL",
    "bSMALL LETTERqbCAPITAL LETTER R WITH STROKEbSMALLqbCAPITAL LETTER YobSMALLqdTURNED AdALPHA",
    "dTURNEDndB WITH HOOKdOPEN OdC WITH CURLdD WITH TAILfHOOKdREVERSED EdSCHWAeWITH HOOKdOPEN E",
    "dREVERSEDogWITH HOOKdCLOSED REVERSED OPEN EdDOTLESS J WITH STROKEdG WITH HOOKdSCRIPT G",
    "bLETTER SMALL CAPITALnbSMALL LETTER GAMMAdRAMS HORNdTURNED HdH WITH HOOKdHENGodI WITH STROKE",
    "dIOTAbLETTER SMALL CAPITAL IbSMALL LETTER L WITH MIDDLE TILDEfBELTfRETROFLEX HOOKdLEZH",
    "dTURNED MfWITH LONG LEGdM WITH HOOKdN WITH LEFTnfRETROFLEXnbLETTER SMALL CAPITAL N",
    "bSMALL LETTER BARRED ObLETTER SMALL CAPITAL OEbSMALL LETTER CLOSED OMEGAdPHIdTURNED R",
    "fWITH LONG LEGgHOOKdR WITH LONG LEGfTAILfFISHHOOKdREVERSEDpbLETTER SMALL CAPITAL ReINVERTEDn",
    "bSMALL LETTER S WITH HOOKdESHdDOTLESS J WITH STROKE AND HOOKdSQUAT REVERSED ESH",
    "dESH WITH CURLdTURNED TdT WITH RETROFLEX HOOKdU BARdUPSILONdV WITH HOOKdTURNED VeWeY",
    "bLETTER SMALL CAPITALnbSMALL LETTER Z WITH RETROFLEX HOOKfCURLdEZHeWITH CURL",
    "bLETTER GLOTTAL STOPcPHARYNGEAL VOICED FRICATIVEcINVERTED GLOTTAL STOPcSTRETCHED C",
    "cBILABIAL CLICKcSMALL CAPITAL BbSMALL LETTER CLOSED OPEN EbLETTER SMALL CAPITAL G WITH HOOK",
    "eHbSMALL LETTER J WITH CROSSED-TAILdTURNED KbLETTER SMALL CAPITAL LbSMALL LETTER Q WITH HOOK",
    "bLETTER GLOTTAL STOP WITH STROKEcREVERSEDqbSMALL LETTER DZ DIGRAPHdDEZHn",
    "dDZ DIGRAPH WITH CURLdTS DIGRAPHdTESHndTC DIGRAPH WITH CURLdFENG DIGRAPHdLSndLZn",
    "bLETTER BILABIAL PERCUSSIVEcBIDENTALnbSMALL LETTER TURNED H WITH FISHHOOKhAND TAIL",
    "aMODIFIER LETTER SMALL HeWITH HOOKdJdRdTURNEDnfWITH HOOKdCAPITAL INVERTED RdWdYcPRIME",
    "cDOUBLEncTURNED COMMAcAPOSTROPHEcREVERSED COMMAcRIGHT HALF RINGcLEFTocGLOTTAL STOPcREVERSEDo",
    "cLEFT ARROWHEADcRIGHTncUPncDOWNncCIRCUMFLEX ACCENTaCARONaMODIFIER LETTER VERTICAL LINE",
    "cMACRONcACUTE ACCENTcGRAVEncLOW VERTICAL LINEdMACRONdGRAVE ACCENTdACUTEncTRIANGULAR COLON",
    "cHALFocCENTRED RIGHT HALF RINGdLEFTocUP TACKcDOWNncPLUS SIGNcMINUSnaBREVEaDOT ABOVEaRINGn",
    "aOGONEKaSMALL TILDEaDOUBLE ACUTE ACCENTaMODIFIER LETTER RHOTIC HOOKcCROSS ACCENTcSMALL GAMMA",
    "dLdSdXdREVERSED GLOTTAL STOPcEXTRA-HIGH TONE BARcHIGHocMIDocLOWocEXTRA-LOWo",
    "cYIN DEPARTING TONE MARKcYANGpcVOICINGcUNASPIRATEDcDOUBLE APOSTROPHEcLOW DOWN ARROWHEADdUPn",
    "dLEFTndRIGHTndRINGcMIDDLE GRAVE ACCENTdDOUBLEoeACUTEncLOW TILDEcRAISED COLONcBEGIN HIGH TONE",
    "cENDocBEGIN LOWncENDocSHELFcOPENncLOW LEFT ARROWaCOMBINING GRAVE ACCENTbACUTEnbCIRCUMFLEXn",
    "bTILDEbMACRONbOVERLINEbBREVEbDOT ABOVEbDIAERESISbHOOK ABOVEbRINGnbDOUBLE ACUTE ACCENTbCARON",
    "bVERTICAL LINE ABOVEbDOUBLEpcGRAVE ACCENTbCANDRABINDUbINVERTED BREVEbTURNED COMMA ABOVEbo",
    "bREVERSEDobCOMMA ABOVE RIGHTbGRAVE ACCENT BELOWbACUTEobLEFT TACKnbRIGHTobLEFT ANGLE ABOVE",
    "bHORNbLEFT HALF RING BELOWbUP TACKnbDOWNobPLUS SIGNnbMINUSobPALATALIZED HOOKnbRETROFLEXo",
    "bDOTnbDIAERESISnbRINGnbCOMMAnbCEDILLAbOGONEKbVERTICAL LINE BELOWbBRIDGEn",
    "bINVERTED DOUBLE ARCHnbCARONnbCIRCUMFLEX ACCENTnbBREVEnbINVERTEDobTILDEnbMACRONnbLOW LINE",
    "bDOUBLEobTILDE OVERLAYbSHORT STROKEnbLONGobSHORT SOLIDUSnbLONGobRIGHT HALF RING BELOW",
    "bINVERTED BRIDGEnbSQUAREnbSEAGULLnbX ABOVEbVERTICAL TILDEbDOUBLE OVERLINEbGRAVE TONE MARK",
    "bACUTEobGREEK PERISPOMENIcKORONIScDIALYTIKA TONOScYPOGEGRAMMENIbBRIDGE ABOVE",
    "bEQUALS SIGN BELOWbDOUBLE VERTICAL LINEnbLEFT ANGLEnbNOT TILDE ABOVEbHOMOTHETICn",
    "bALMOST EQUAL TOnbLEFT RIGHT ARROW BELOWbUPWARDSobGRAPHEME JOINERbRIGHT ARROWHEAD ABOVE",
    "bLEFT HALF RINGnbFERMATAbX BELOWbLEFT ARROWHEADnbRIGHTodAND UP ARROWHEADncHALF RING ABOVE",
    "bDOT ABOVE RIGHTbASTERISK BELOWbDOUBLE RINGnbZIGZAG ABOVEbDOUBLE BREVE BELOWdcMACRONdBELOW",
    "cTILDEcINVERTED BREVEcRIGHTWARDS ARROW BELOWbLATIN SMALL LETTER AeEeIeOeUeCeDeHeMeReTeVeX",
    "aGREEK CAPITAL LETTER HETAbSMALLobCAPITAL LETTER ARCHAIC SAMPIbSMALLpbNUMERAL SIGNbLOWERo",
    "bCAPITAL LETTER PAMPHYLIAN DIGAMMAbSMALLp__bYPOGEGRAMMENIbSMALL REVERSED LUNATE SIGMA SYMBOL",
    "cDOTTEDpcREVERSEDqbQUESTION MARKbCAPITAL LETTER YOT"]⟩,
  ⟨0x384, [
    "aGREEK TONOSbDIALYTIKAnbCAPITAL LETTER ALPHA WITHnbANO TELEIA",
    "bCAPITAL LETTER EPSILON WITH TONOSdETAodIOTAo_dOMICRONo_dUPSILONodOMEGAo",
    "bSMALL LETTER IOTA WITH DIALYTIKA ANDnbCAPITAL LETTER ALPHAdBETAdGAMMAdDELTAdEPSILONdZETA",
    "dETAdTHETAdIOTAdKAPPAdLAMDAdMUdNUdXIdOMICRONdPIdRHO_dSIGMAdTAUdUPSILONdPHIdCHIdPSIdOMEGA",
    "dIOTA WITH DIALYTIKAdUPSILONobSMALL LETTER ALPHA WITH TONOSdEPSILONodETAodIOTAo",
    "dUPSILON WITH DIALYTIKA ANDndALPHAdBETAdGAMMAdDELTAdEPSILONdZETAdETAdTHETAdIOTAdKAPPAdLAMDA",
    "dMUdNUdXIdOMICRONdPIdRHOdFINAL SIGMAdndTAUdUPSILONdPHIdCHIdPSIdOMEGAdIOTA WITH DIALYTIKA",
    "dUPSILONodOMICRON WITH TONOSdUPSILONodOMEGAobCAPITAL KAI SYMBOLbBETAnbTHETAn",
    "bUPSILON WITH HOOKndACUTE ANDodDIAERESISpbPHInbPInbKAInbLETTER ARCHAIC KOPPAbSMALLp",
    "bLETTER STIGMAbSMALLobLETTER DIGAMMAbSMALLobLETTER KOPPAbSMALLobLETTER SAMPIbSMALLo",
    "aCOPTIC CAPITAL LETTER SHEIbSMALLobCAPITAL LETTER FEIbSMALLobCAPITAL LETTER KHEIbSMALLo",
    "bCAPITAL LETTER HORIbSMALLobCAPITAL LETTER GANGIAbSMALLobCAPITAL LETTER SHIMAbSMALLo",
    "bCAPITAL LETTER DEIbSMALLoaGREEK KAPPA SYMBOLbRHOnbLUNATE SIGMAnbLETTER YOT",
    "bCAPITAL THETA SYMBOLbLUNATE EPSILONnbREVERSEDpbCAPITAL LETTER SHObSMALLo",
    "bCAPITAL LUNATE SIGMA SYMBOLcLETTER SANbSMALLobRHO WITH STROKE SYMBOL",
    "bCAPITAL REVERSED LUNATE SIGMAncDOTTEDpcREVERSEDqaCYRILLIC CAPITAL LETTER IE WITH GRAVEdIO",
    "dDJEdGJEdUKRAINIAN IEdDZEdBYELORUSSIAN-UKRAINIAN IdYIdJEdLJEdNJEdTSHEdKJEdI WITH GRAVE",
    "dSHORT UdDZHEdAdBEdVEdGHEdDEdIEdZHEdZEdIdSHORTndKAdELdEMdENdOdPEdERdESdTEdUdEFdHAdTSEdCHE",
    "dSHAdSHCHAdHARD SIGNdYERUdSOFT SIGNdEdYUdYAbSMALL LETTER AdBEdVEdGHEdDEdIEdZHEdZEdIdSHORTn",
    "dKAdELdEMdENdOdPEdERdESdTEdUdEFdHAdTSEdCHEdSHAdSHCHAdHARD SIGNdYERUdSOFT SIGNdEdYUdYA",
    "dIE WITH GRAVEdIOdDJEdGJEdUKRAINIAN IEdDZEdBYELORUSSIAN-UKRAINIAN IdYIdJEdLJEdNJEdTSHEdKJE",
    "dI WITH GRAVEdSHORT UdDZHEbCAPITAL LETTER OMEGAbSMALLobCAPITAL LETTER YATbSMALLo",
    "bCAPITAL LETTER IOTIFIED EbSMALLpbCAPITAL LETTER LITTLE YUSbSMALLpbCAPITAL LETTER IOTIFIEDo",
    "bSMALLqbCAPITAL LETTER BIGnbSMALLpbCAPITAL LETTER IOTIFIEDobSMALLqbCAPITAL LETTER KSIbSMALLo",
    "bCAPITAL LETTER PSIbSMALLobCAPITAL LETTER FITAbSMALLobCAPITAL LETTER IZHITSAbSMALLo",
    "bCAPITAL LETTER IZHITSA WITH DOUBLE GRAVE ACCENTbSMALLsbCAPITAL LETTER UKbSMALLo",
    "bCAPITAL LETTER ROUND OMEGAbSMALLpbCAPITAL LETTER OMEGA WITH TITLObSMALLqbCAPITAL LETTER OT",
    "bSMALLobCAPITAL LETTER KOPPAbSMALLobTHOUSANDS SIGNaCOMBINING CYRILLIC TITLOcPALATALIZATION",
    "cDASIA PNEUMATAcPSILIncPOKRYTIEcHUNDRED THOUSANDS SIGNcMILLIONSn",
    "aCYRILLIC CAPITAL LETTER SHORT I WITH TAILbSMALLrbCAPITAL LETTER SEMISOFT SIGNbSMALLp",
    "bCAPITAL LETTER ER WITH TICKbSMALLqbCAPITAL LETTER GHE WITH UPTURNbSMALLq",
    "bCAPITAL LETTER GHE WITH STROKEbSMALLqbCAPITAL LETTER GHE WITH MIDDLE HOOKbSMALLr",
    "bCAPITAL LETTER ZHE WITH DESCENDERbSMALLqbCAPITAL LETTER ZEobSMALLqbCAPITAL LETTER KAo",
    "bSMALLqbCAPITAL LETTER KA WITH VERTICAL STROKEbSMALLrbCAPITAL LETTER KA WITHnbSMALLq",
    "bCAPITAL LETTER BASHKIR KAbSMALLpbCAPITAL LETTER EN WITH DESCENDERbSMALLq",
    "bCAPITAL LIGATURE EN GHEbSMALLpbCAPITAL LETTER PE WITH MIDDLE HOOKbSMALLr",
    "bCAPITAL LETTER ABKHASIAN HAbSMALLpbCAPITAL LETTER ES WITH DESCENDERbSMALLq",
    "bCAPITAL LETTER TEobSMALLqbCAPITAL LETTER STRAIGHT UbSMALLp",
    "bCAPITAL LETTER STRAIGHT U WITH STROKEbSMALLrbCAPITAL LETTER HA WITH DESCENDERbSMALLq",
    "bCAPITAL LIGATURE TE TSEbSMALLpbCAPITAL LETTER CHE WITH DESCENDERbSMALLq",
    "bCAPITAL LETTER CHE WITH VERTICAL STROKEbSMALLrbCAPITAL LETTER SHHAbSMALLo",
    "bCAPITAL LETTER ABKHASIAN CHEbSMALLpbCAPITAL LETTER ABKHASIAN CHE WITH DESCENDERbSMALLr",
    "bLETTER PALOCHKAbCAPITAL LETTER ZHE WITH BREVEbSMALLqbCAPITAL LETTER KA WITH HOOKbSMALLq",
    "bCAPITAL LETTER EL WITH TAILbSMALLqbCAPITAL LETTER EN WITH HOOKbSMALLq",
    "bCAPITAL LETTER EN WITH TAILbSMALLqbCAPITAL LETTER KHAKASSIAN CHEbSMALLp",
    "bCAPITAL LETTER EM WITH TAILbSMALLqdPALOCHKAbCAPITAL LETTER A WITH BREVEbSMALLq",
    "bCAPITAL LETTER A WITH DIAERESISbSMALLqbCAPITAL LIGATURE A IEbSMALLp",
    "bCAPITAL LETTER IE WITH BREVEbSMALLqbCAPITAL LETTER SCHWAbSMALLo",
    "bCAPITAL LETTER SCHWA WITH DIAERESISbSMALLqbCAPITAL LETTER ZHEobSMALLqbCAPITAL LETTER ZEo",
    "bSMALLqbCAPITAL LETTER ABKHASIAN DZEbSMALLpbCAPITAL LETTER I WITH MACRONbSMALLq",
    "bCAPITAL LETTER I WITH DIAERESISbSMALLqbCAPITAL LETTER OobSMALLqbCAPITAL LETTER BARRED O",
    "bSMALLpbCAPITAL LETTER BARRED O WITH DIAERESISbSMALLrbCAPITAL LETTER EobSMALLq",
    "bCAPITAL LETTER U WITH MACRONbSMALLqbCAPITAL LETTER U WITH DIAERESISbSMALLq",
    "bCAPITAL LETTER U WITH DOUBLE ACUTEbSMALLrbCAPITAL LETTER CHE WITH DIAERESISbSMALLq",
    "bCAPITAL LETTER GHE WITH DESCENDERbSMALLqbCAPITAL LETTER YERU WITH DIAERESISbSMALLq",
    "bCAPITAL LETTER GHE WITH STROKE AND HOOKbSMALLsbCAPITAL LETTER HA WITHnbSMALLq",
    "bCAPITAL LETTER HA WITH STROKEbSMALLqbCAPITAL LETTER KOMI DEbSMALLpbCAPITAL LETTER KOMI DJE",
    "bSMALLpbCAPITAL LETTER KOMI ZJEbSMALLpbCAPITAL LETTER KOMI DZJEbSMALLp",
    "bCAPITAL LETTER KOMI LJEbSMALLpbCAPITAL LETTER KOMI NJEbSMALLpbCAPITAL LETTER KOMI SJE",
    "bSMALLpbCAPITAL LETTER KOMI TJEbSMALLpbCAPITAL LETTER REVERSED ZEbSMALLp",
    "bCAPITAL LETTER EL WITH HOOKbSMALLqbCAPITAL LETTER LHAbSMALLobCAPITAL LETTER RHAbSMALLo",
    "bCAPITAL LETTER YAEbSMALLobCAPITAL LETTER QAbSMALLobCAPITAL LETTER WEbSMALLo",
    "bCAPITAL LETTER ALEUT KAbSMALLpbCAPITAL LETTER EL WITH MIDDLE HOOKbSMALLrbCAPITAL LETTER ENp",
    "bSMALLrbCAPITAL LETTER PE WITH DESCENDERbSMALLqbCAPITAL LETTER SHHAobSMALLq",
    "bCAPITAL LETTER EN WITH LEFT HOOKbSMALLrbCAPITAL LETTER DZZHEbSMALLobCAPITAL LETTER DCHE",
    "bSMALLobCAPITAL LETTER EL WITH DESCENDERbSMALLq_aARMENIAN CAPITAL LETTER AYBdBENdGIMdDAdECH",
    "dZAdEHdETdTOdZHEdINIdLIWNdXEHdCAdKENdHOdJAdGHADdCHEHdMENdYIdNOWdSHAdVOdCHAdPEHdJHEHdRAdSEH",
    "dVEWdTIWNdREHdCOdYIWNdPIWRdKEHdOHdFEH__bMODIFIER LETTER LEFT HALF RINGbAPOSTROPHE",
    "bEMPHASIS MARKbEXCLAMATIONnbCOMMAbQUESTION MARKbABBREVIATIONnbSMALL LETTER TURNED AYBdndBEN",
    "dGIMdDAdECHdZAdEHdETdTOdZHEdINIdLIWNdXEHdCAdKENdHOdJAdGHADdCHEHdMENdYIdNOWdSHAdVOdCHAdPEH",
    "dJHEHdRAdSEHdVEWdTIWNdREHdCOdYIWNdPIWRdKEHdOHdFEHcLIGATURE ECH YIWNcLETTER YI WITH STROKE",
    "bFULL STOPbHYPHEN__aRIGHT-FACING ARMENIAN ETERNITY SIGNaLEFT-FACINGpaARMENIAN DRAMn_",
    "aHEBREW ACCENT ETNAHTAcSEGOLcSHALSHELETcZAQEF QATANdGADOLcTIPEHAcREVIAcZARQAcPASHTAcYETIV",
    "cTEVIRcGERESHdMUQDAMcGERSHAYIMcQARNEY PARAcTELISHA GEDOLAcPAZERcATNAH HAFUKHcMUNAHcMAHAPAKH",
    "cMERKHAdKEFULAcDARGAcQADMAcTELISHA QETANAcYERAH BEN YOMOcOLEcILUYcDEHIcZINOR",
    "bMARK MASORA CIRCLEbPOINT SHEVAcHATAF SEGOLdPATAHdQAMATScHIRIQcTSEREcSEGOLcPATAHcQAMATS",
    "cHOLAMdHASER FOR VAVcQUBUTScDAGESH OR MAPIQcMETEGbPUNCTUATION MAQAFbPOINT RAFE",
    "bPUNCTUATION PASEQbPOINT SHIN DOTcSINnbPUNCTUATION SOF PASUQbMARK UPPER DOTcLOWERn",
    "bPUNCTUATION NUN HAFUKHAbPOINT QAMATS QATAN"]⟩,
  ⟨0x5D0, [
    "aHEBREW LETTER ALEFcBETcGIMELcDALETcHEcVAVcZAYINcHETcTETcYODcFINAL KAFcncLAMEDcFINAL MEMcn",
    "cFINAL NUNcncSAMEKHcAYINcFINAL PEcncFINAL TSADIcncQOFcRESHcSHINcTAV"]⟩,
  ⟨0x5EF, [
    "aHEBREW YOD TRIANGLEbLIGATURE YIDDISH DOUBLE VAVdVAV YODdDOUBLEnbPUNCTUATION GERESH",
    "cGERSHAYIM"]⟩,
  ⟨0x600, [
    "aARABIC NUMBER SIGNbSIGN SANAHbFOOTNOTE MARKERbSIGN SAFHAcSAMVATbNUMBER MARK ABOVE",
    "aARABIC-INDIC CUBE ROOTbFOURTHnaARABIC RAYaARABIC-INDIC PER MILLE SIGNcTEN THOUSANDn",
    "aAFGHANInaARABIC COMMAbDATE SEPARATORbPOETIC VERSE SIGNbSIGN MISRA",
    "cSALLALLAHOU ALAYHE WASSALLAMcALAYHE ASSALLAMcRAHMATULLAH ALAYHEcRADI ALLAHOU ANHUcTAKHALLUS",
    "bSMALL HIGH TAHdLIGATURE ALEF WITH LAM WITH YEHdZAINcFATHAcDAMMAcKASRAbSEMICOLONbLETTER MARK",
    "bEND OF TEXTnbTRIPLE DOT PUNCTUATIONnbQUESTIONnbLETTER KASHMIRI YEHcHAMZA",
    "cALEF WITH MADDA ABOVEeHAMZAncWAWpcALEF WITH HAMZA BELOWcYEH WITH HAMZA ABOVEcALEFcBEH",
    "cTEH MARBUTAdcTHEHcJEEMcHAHcKHAHcDALcTHALcREHcZAINcSEENcSHEENcSADcDADcTAHcZAHcAINcGHAIN",
    "cKEHEH WITH TWO DOTS ABOVEeTHREE DOTS BELOWcFARSI YEH WITH INVERTED VfTWO DOTS ABOVEfTHREEo",
    "bTATWEELbLETTER FEHcQAFcKAFcLAMcMEEMcNOONcHEHcWAWcALEF MAKSURAcYEHbFATHATANbDAMMATAN",
    "bKASRATANbFATHAbDAMMAbKASRAbSHADDAbSUKUNbMADDAH ABOVEbHAMZAncBELOWbSUBSCRIPT ALEF",
    "bINVERTED DAMMAbMARK NOON GHUNNAbZWARAKAYbVOWEL SIGN SMALL V ABOVEdINVERTEDpdDOT BELOW",
    "bREVERSED DAMMAbFATHA WITH TWO DOTSbWAVY HAMZA BELOWaARABIC-INDIC DIGIT ZEROcONEcTWOcTHREE",
    "cFOURcFIVEcSIXcSEVENcEIGHTcNINEaARABIC PERCENT SIGNbDECIMAL SEPARATORbTHOUSANDSn",
    "bFIVE POINTED STARbLETTER DOTLESS BEHdQAFcSUPERSCRIPT ALEFcALEF WASLAdWITH WAVY HAMZA ABOVE",
    "gBELOWcHIGH HAMZAeALEFeWAWcU WITH HAMZA ABOVEcHIGH HAMZA YEHcTTEHcTTEHEHcBEEHcTEH WITH RING",
    "eTHREE DOTS ABOVE DOWNWARDScPEHcTEHEHcBEHEHcHAH WITH HAMZA ABOVEeTWO DOTS VERTICALncNYEH",
    "cDYEHcHAH WITH THREE DOTS ABOVEcTCHEHcTCHEHEHcDDALcDAL WITH RINGeDOT BELOWgAND SMALL TAH",
    "cDAHALcDDAHALcDULcDAL WITH THREE DOTS ABOVE DOWNWARDSeFOUR DOTS ABOVEcRREHcREH WITH SMALL V",
    "eRINGeDOT BELOWeSMALL VneDOT BELOW AND DOT ABOVEeTWO DOTSncJEHcREH WITH FOUR DOTS ABOVE",
    "cSEEN WITH DOT BELOW AND DOTneTHREE DOTS BELOWhAND THREE DOTS ABOVEcSAD WITH TWO DOTS BELOW",
    "eTHREE DOTS ABOVEcTAHqcAINqcDOTLESS FEHcFEH WITH DOT MOVED BELOWfncVEH",
    "cFEH WITH THREE DOTS BELOWcPEHEHcQAF WITH DOT ABOVEeTHREE DOTSncKEHEHcSWASH KAF",
    "cKAF WITH RINGeDOT ABOVEcNGcKAF WITH THREE DOTS BELOWcGAFdWITH RINGcNGOEH",
    "cGAF WITH TWO DOTS BELOWcGUEHcGAF WITH THREE DOTS ABOVEcLAM WITH SMALL VeDOT ABOVE",
    "eTHREE DOTSngBELOWcNOON WITH DOTndGHUNNAcRNOONcNOON WITH RINGeTHREE DOTS ABOVE",
    "cHEH DOACHASHMEEcTCHEH WITH DOT ABOVEcHEH WITH YEHndGOALeWITH HAMZA ABOVEcTEH MARBUTA GOAL",
    "cWAW WITH RINGcKIRGHIZ OEcncUcYUcKIRGHIZncWAW WITH TWO DOTS ABOVEcVEcFARSI YEHcYEH WITH TAIL",
    "eSMALL VcWAW WITH DOT ABOVEcEcYEH WITH THREE DOTS BELOWdBARREEeWITH HAMZA ABOVEbFULL STOP",
    "bLETTER AEbSMALL HIGH LIGATURE SAD WITH LAM WITH ALEF MAKSURAeQAFrdMEEM INITIAL FORM",
    "dLAM ALEFdJEEMdTHREE DOTSdSEENbEND OF AYAHbSTART OF RUB EL HIZBbSMALL HIGH ROUNDED ZERO",
    "dUPRIGHT RECTANGULARndDOTLESS HEAD OF KHAHdMEEM ISOLATED FORMcLOW SEENcHIGH MADDAcWAWcYEH",
    "cHIGHndNOONbPLACE OF SAJDAHbEMPTY CENTRE LOW STOPdHIGHnbROUNDED HIGH STOP WITH FILLED CENTRE",
    "bSMALL LOW MEEMbLETTER DAL WITH INVERTED VcREHpaEXTENDED ARABIC-INDIC DIGIT ZEROdONEdTWO",
    "dTHREEdFOURdFIVEdSIXdSEVENdEIGHTdNINEaARABIC LETTER SHEEN WITH DOT BELOWcDADpcGHAINp",
    "bSIGN SINDHI AMPERSANDdPOSTPOSITION MENbLETTER HEH WITH INVERTED VaSYRIAC END OF PARAGRAPH",
    "bSUPRALINEAR FULL STOPbSUBLINEARobSUPRALINEAR COLONbSUBLINEARnbHORIZONTALnbCOLON SKEWED LEFT",
    "dRIGHTbSUPRALINEAR COLON SKEWED LEFTbSUBLINEAR COLON SKEWED RIGHTbCONTRACTION",
    "bHARKLEAN OBELUScMETOBELUScASTERISCUS_bABBREVIATION MARKbLETTER ALAPHcSUPERSCRIPTncBETH",
    "cGAMALdGARSHUNIcDALATHcDOTLESS DALATH RISHcHEcWAWcZAINcHETHcTETHdGARSHUNIcYUDHdHEcKAPH",
    "cLAMADHcMIMcNUNcSEMKATHcFINALncEcPEcREVERSEDncSADHEcQAPHcRISHcSHINcTAWcPERSIAN BHETHdGHAMAL",
    "dDHALATHbPTHAHA ABOVEcBELOWcDOTTEDbZQAPHA ABOVEcBELOWcDOTTEDbRBASA ABOVEcBELOW",
    "bDOTTED ZLAMA HORIZONTALdANGULARbHBASA ABOVEcBELOWbHBASA-ESASA DOTTEDbESASA ABOVEcBELOW",
    "bRWAHAbFEMININE DOTbQUSHSHAYAbRUKKAKHAbTWO VERTICAL DOTS ABOVEeBELOWbTHREE DOTS ABOVEdBELOW",
    "bOBLIQUE LINE ABOVEdBELOWbMUSICbBARREKH__bLETTER SOGDIAN ZHAINdKHAPHdFE",
    "aARABIC LETTER BEH WITH THREE DOTS HORIZONTALLY BELOWeDOT BELOW AND THREE DOTS ABOVE",
    "eTHREE DOTS POINTING UPWARDS BELOWjAND TWO DOTS ABOVEeTWO DOTS BELOW AND DOTn",
    "eINVERTED SMALL V BELOWeSMALL VcHAH WITH TWO DOTS ABOVEeTHREE DOTS POINTING UPWARDS BELOW",
    "cDAL WITH TWO DOTS VERTICALLY BELOW AND SMALL TAHeINVERTED SMALL V BELOWcREH WITH STROKE",
    "cSEEN WITH FOUR DOTS ABOVEcAIN WITH TWOoeTHREE DOTS POINTING DOWNWARDSneTWO DOTS VERTICALLYn",
    "cFEH WITH TWO DOTS BELOWeTHREE DOTS POINTING UPWARDSncKEHEH WITH DOT ABOVEeTHREE DOTSn",
    "gPOINTING UPWARDS BELOWcMEEM WITH DOT ABOVEfBELOWcNOON WITH TWO DOTSneSMALL TAHfV",
    "cLAM WITH BARcREH WITH TWO DOTS VERTICALLY ABOVEeHAMZAncSEEN WITH TWO DOTS VERTICALLYn",
    "cHAH WITH SMALL ARABIC LETTER TAH BELOWiAND TWO DOTScSEENucREHu",
    "cHAH WITH SMALL ARABIC LETTER TAH ABOVEcALEF WITH EXTENDED ARABIC-INDIC DIGIT TWOnhTHREEn",
    "cFARSI YEH WITH EXTENDED ARABIC-INDIC DIGIT TWOniTHREEniFOUR BELOW",
    "cWAW WITH EXTENDED ARABIC-INDIC DIGIT TWO ABOVEhTHREEn",
    "cYEH BARREE WITH EXTENDED ARABIC-INDIC DIGIT TWOniTHREEn",
    "cHAH WITH EXTENDED ARABIC-INDIC DIGIT FOUR BELOW",
    "cSEEN WITH EXTENDED ARABIC-INDIC DIGIT FOUR ABOVEeINVERTED VcKAF WITH TWO DOTS ABOVE",
    "aTHAANA LETTER HAAcSHAVIYANIcNOONUcRAAcBAAcLHAVIYANIcKAAFUcALIFUcVAAVUcMEEMUcFAAFUcDHAALU",
    "cTHAAcLAAMUcGAAFUcGNAVIYANIcSEENUcDAVIYANIcZAVIYANIcTAVIYANIcYAAcPAVIYANIcJAVIYANIcCHAVIYANI",
    "cTTAAcHHAAcKHAAcTHAALUcZAAcSHEENUcSAADHUcDAADHUcTOcZOcAINUcGHAINUcQAAFUcWAAVUbABAFILI",
    "bAABAAFILIbIBIFILIbEEBEEFILIbUBUFILIbOOBOOFILIbEBEFILIbEYBEYFILIbOBOFILIbOABOAFILIbSUKUN",
    "bLETTER NAA"]⟩,
  ⟨0x7C0, [
    "aNKO DIGIT ZEROcONEcTWOcTHREEcFOURcFIVEcSIXcSEVENcEIGHTcNINEbLETTER AcEEcIcEcUcOOcO",
    "cDAGBASINNAcNcBAcPAcTAcJAcCHAcDAcRAcRRAcSAcGBAcFAcKAcLAcNA WOLOSOcMAcNYAcNAcHAcWAcYA",
    "cNYA WOLOSOcJONA JAdCHAdRAbCOMBINING SHORT HIGH TONEdLOWndRISINGncLONG DESCENDINGndHIGHn",
    "dLOWndRISINGncNASALIZATION MARKcDOUBLE DOT ABOVEbHIGH TONE APOSTROPHEbLOWobSYMBOL OO DENNEN",
    "cGBAKURUNENbCOMMAbEXCLAMATION MARKbLAJANYALAN__bDANTAYALANbDOROME SIGNbTAMANn",
    "aSAMARITAN LETTER ALAFcBITcGAMANcDALATcIYcBAAcZENcITcTITcYUTcKAAFcLABATcMIMcNUNcSINGAATcIN",
    "cFIcTSAADIYcQUFcRISHcSHANcTAAFbMARK INcIN-ALAFcOCCLUSIONcDAGESH",
    "bMODIFIER LETTER EPENTHETIC YUTbMARKobVOWEL SIGN LONG EdndOVERLONG AAdLONGndndOVERLONG A",
    "dLONGndnbMODIFIER LETTER SHORTnbVOWEL SIGNodLONG UdnbMODIFIER LETTER IbVOWEL SIGN LONGndndO",
    "dSUKUNbMARK NEQUDAA__bPUNCTUATIONncAFSAAQcANGEDcBAUcATMAAUcSHIYYAALAAbABBREVIATION MARK",
    "bPUNCTUATION MELODIC QITSAcZIQAAcQITSAcZAEFcTURUcARKAANUcSOF MASHFAATcANNAAU_",
    "aMANDAIC LETTER HALQAcABcAGcADcAHcUSHENNAcAZcITcATTcAKSAcAKcALcAMcANcAScINcAPcASZcAQcARcASH",
    "cATcDUSHENNAcKADcAINbAFFRICATION MARKbVOCALIZATIONnbGEMINATIONn__bPUNCTUATION_",
    "aSYRIAC LETTER MALAYALAM NGAdJAdNYAdTTAdNNAdNNNAdBHAdRAdLLAdLLLAdSSA"]⟩]

end FormDialogue.Unicode
