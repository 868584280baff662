import FormDialogue.Unicode.Name.Run

/-! # Names of notation

The names of musical and mathematical notation, in runs of their short form. -/

namespace FormDialogue.Unicode

def notationNames : List NameRun := [
  ⟨0x1D000, [
    "aBYZANTINE MUSICAL SYMBOL PSILIdDASEIAdPERISPOMENIdOXEIA EKFONITIKONeDIPLI",
    "dVAREIA EKFONITIKONeDIPLIdKATHISTIdSYRMATIKIdPARAKLITIKIdYPOKRISISeDIPLIdKREMASTI",
    "dAPESO EKFONITIKONdEXOndTELEIAdKENTIMATAdAPOSTROFOSeDIPLIdSYNEVMAdTHITAdOLIGON ARCHAION",
    "dGORGONndPSILONdCHAMILONdVATHYdISON ARCHAIONdKENTIMAndKENTIMATAndSAXIMATAdPARICHON",
    "dSTAVROS APODEXIAdOXEIAI ARCHAIONdVAREIAIndAPODERMAndAPOTHEMAdKLASMAdREVMAdPIASMA ARCHAION",
    "dTINAGMAdANATRICHISMAdSEISMAdSYNAGMA ARCHAIONeMETA STAVROUdOYRANISMA ARCHAIONdTHEMAdLEMOI",
    "dDYOdTRIAdTESSERAdKRATIMATAdAPESO EXO NEOdFTHORA ARCHAIONdIMIFTHORAdTROMIKON ARCHAION",
    "dKATAVA TROMIKONdPELASTONdPSIFISTONdKONTEVMAdCHOREVMA ARCHAIONdRAPISMAdPARAKALESMA ARCHAION",
    "dPARAKLITIKIndICHADINdNANAdPETASMAdKONTEVMA ALLOdTROMIKONndSTRAGGISMATAdGRONTHISMATA",
    "dISON NEOdOLIGONndOXEIAndPETASTIdKOUFISMAdPETASTOKOUFISMAdKRATIMOKOUFISMAdPELASTON NEO",
    "dKENTIMATA NEO ANOdKENTIMAodYPSILIdAPOSTROFOS NEOdAPOSTROFOI SYNDESMOSndYPORROI",
    "dKRATIMOYPORROONdELAFRONdCHAMILIdMIKRON ISONdVAREIA NEOdPIASMAndPSIFISTONndOMALONdANTIKENOMA",
    "dLYGISMAdPARAKLITIKI NEOdPARAKALESMAndETERON PARAKALESMAdKYLISMAdANTIKENOKYLISMA",
    "dTROMIKON NEOdEKSTREPTONdSYNAGMA NEOdSYRMAdCHOREVMA NEOdEPEGERMAdSEISMA NEOdXIRON KLASMA",
    "dTROMIKOPSIFISTONdPSIFISTOLYGISMAdTROMIKOLYGISMAdTROMIKOPARAKALESMAdPSIFISTOPARAKALESMA",
    "dTROMIKOSYNAGMAdPSIFISTOSYNAGMAdGORGOSYNTHETONdARGOSYNTHETONdETERONndOYRANISMA NEO",
    "dTHEMATISMOS ESOeEXOdTHEMA APLOUNdTHES KAI APOTHESdKATAVASMAdENDOFONONdYFEN KATOeANOdSTAVROS",
    "dKLASMA ANOdDIPLI ARCHAIONdKRATIMAneALLOeNEOdAPODERMAndAPLIdDIPLIdTRIPLIdTETRAPLIdKORONIS",
    "dLEIMMA ENOS CHRONOUeDYO CHRONONeTRIONneTESSARONneIMISEOS CHRONOUdGORGON NEO ANO",
    "ePARESTIGMENON ARISTERAfDEXIAdDIGORGONePARESTIGMENON ARISTERA KATOgANOfDEXIAdTRIGORGONdARGON",
    "dIMIDIARGONdDIARGONdAGOGI POLI ARGIeARGOTERIeARGIeMETRIAeMESIeGORGIeGORGOTERIePOLI GORGI",
    "dMARTYRIA PROTOS ICHOSeALLIoeDEYTEROSneALLIoeTRITOSneTRIFONIASeTETARTOS ICHOSfLEGETOSneo",
    "ePLAGIOSndISAKIA TELOUS ICHIMATOSdAPOSTROFOIodFANEROSIS TETRAFONIASeMONOFONIASeDIFONIAS",
    "dMARTYRIA VARYS ICHOSePROTOVARYSnePLAGIOS TETARTOSndGORTHMIKON N APLOUNfDIPLOUN",
    "dENARXIS KAI FTHORA VOUdIMIFONONdIMIFTHORONdFTHORA ARCHAION DEYTEROU ICHOUeDIATONIKI PAfNANA",
    "eNAOS ICHOSeDIATONIKI DIeSKLIRON DIATONONneDIATONIKI KEfZOfNI KATOgANO",
    "eMALAKON CHROMA DIFONIASgMONOFONIASdFHTORA SKLIRON CHROMA VASISdFTHORA SKLIRON CHROMA SYNAFI",
    "eNENANOdCHROA ZYGOSeKLITONeSPATHIdFTHORA I YFESIS TETARTIMORIONeENARMONIOS ANTIFONIA",
    "dYFESIS TRITIMORIONdDIESISneTETARTIMORIONeAPLI DYO DODEKATAeMONOGRAMMOS TESSERAn",
    "eDIGRAMMOS EXneTRIGRAMMOS OKTOndYFESIS APLI DYOneMONOGRAMMOS TESSERAneDIGRAMMOS EXn",
    "eTRIGRAMMOS OKTOndGENIKI DIESISeYFESISdDIASTOLI APLI MIKRIfMEGALIeDIPLIeTHESEOSdSIMANSISn",
    "fDISIMOUfTRISIMOUfTETRASIMOUeARSEOSfDISIMOUfTRISIMOUfTETRASIMOUdDIGRAMMA GGdDIFTOGGOS OU",
    "dSTIGMAdARKTIKO PAeVOUeGAeDIeKEeZOeNIdKENTIMATA NEO MESOdKENTIMAodKENTIMATA NEO KATO",
    "dKENTIMAodKLASMAndGORGON NEOn"]⟩,
  ⟨0x1D100, [
    "aMUSICAL SYMBOL SINGLE BARLINEcDOUBLEncFINALncREVERSEocDASHEDncSHORTncLEFT REPEAT SIGN",
    "cRIGHTocREPEAT DOTScDAL SEGNOcDA CAPOcSEGNOcCODAcREPEATED FIGURE-1++cFERMATAdBELOW",
    "cBREATH MARKcCAESURAcBRACEcBRACKETcONE-LINE STAFFcTWO-LINEncTHREE-LINEncFOUR-LINEn",
    "cFIVE-LINEncSIX-LINEncSIX-STRING FRETBOARDcFOUR-STRINGncG CLEFeOTTAVA ALTAfBASSAcC CLEFcFn",
    "eOTTAVA ALTAfBASSAcDRUM CLEF-1+__cMULTIPLE MEASURE RESTcDOUBLE SHARPdFLATcFLAT UPdDOWN",
    "cNATURAL UPdDOWNcSHARP UPdDOWNcQUARTER TONE SHARPeFLATcCOMMON TIMEcCUTncOTTAVA ALTAdBASSA",
    "cQUINDICESIMA ALTAdBASSAcMULTI RESTcWHOLEncHALFncQUARTERncEIGHTHncSIXTEENTHncTHIRTY-SECONDn",
    "cSIXTY-FOURTHncONE HUNDRED TWENTY-EIGHTHncX NOTEHEADcPLUSncCIRCLE XncSQUARE NOTEHEAD WHITE",
    "eBLACKcTRIANGLE NOTEHEAD UP WHITEfBLACKeLEFT WHITEfBLACKeRIGHT WHITEfBLACKeDOWN WHITEfBLACK",
    "eUP RIGHT WHITEgBLACKcMOON NOTEHEAD WHITEeBLACKcTRIANGLE-ROUND NOTEHEAD DOWN WHITEfBLACK",
    "cPARENTHESIS NOTEHEADcVOIDncNOTEHEAD BLACKcNULL NOTEHEADcCLUSTER NOTEHEAD WHITEeBLACKcBREVE",
    "cWHOLE NOTEcHALFncQUARTERncEIGHTHncSIXTEENTHncTHIRTY-SECONDncSIXTY-FOURTHn",
    "cONE HUNDRED TWENTY-EIGHTHncCOMBINING STEMdSPRECHGESANGndTREMOLO-1++cFINGERED TREMOLO-1++",
    "cCOMBINING AUGMENTATION DOTdFLAG-1++++cBEGIN BEAMcENDncBEGIN TIEcENDncBEGIN SLURcENDn",
    "cBEGIN PHRASEcENDncCOMBINING ACCENTdSTACCATOdTENUTOdSTACCATISSIMOdMARCATOdMARCATO-STACCATO",
    "dACCENT-STACCATOdLOUREcARPEGGIATO UPdDOWNcCOMBINING DOITdRIPdFLIPdSMEARdBENDdDOUBLE TONGUE",
    "dTRIPLEncRINFORZANDOcSUBITOcZcPIANOcMEZZOcFORTEcCRESCENDOcDECRESCENDOcGRACE NOTE SLASHeNOn",
    "cTRcTURNcINVERTEDncTURN SLASHdUPcORNAMENT STROKE-1++++++++++cHAUPTSTIMMEcNEBENSTIMME",
    "cEND OF STIMMEcDEGREE SLASHcCOMBINING DOWN BOWdUPndHARMONICdSNAP PIZZICATOcPEDAL MARKdUPn",
    "cHALF PEDALncGLISSANDO UPdDOWNcWITH FINGERNAILScDAMPdALLcMAXIMAcLONGAcBREVIS",
    "cSEMIBREVIS WHITEdBLACKcMINIMAdBLACKcSEMIMINIMA WHITEdBLACKcFUSA WHITEdBLACK",
    "cLONGA PERFECTA RESTdIMPERFECTAncBREVISncSEMIBREVISncMINIMAncSEMIMINIMAn",
    "cTEMPUS PERFECTUM CUM PROLATIONE PERFECTAgIMPERFECTAgPERFECTA DIMINUTION-1",
    "dIMPERFECTUM CUM PROLATIONE PERFECTAgIMPERFECTAhDIMINUTION-1++cCROIXcGREGORIAN C CLEFdFn",
    "cSQUARE BcVIRGAcPODATUScCLIVIScSCANDICUScCLIMACUScTORCULUScPORRECTUSdFLEXUScSCANDICUSn",
    "cTORCULUS RESUPINUScPES SUBPUNCTIScKIEVAN C CLEFdEND OF PIECEdFINAL NOTEdRECITATIVE MARK",
    "dWHOLE NOTEdHALFndQUARTER NOTE STEM DOWNgUPdEIGHTH NOTE STEM DOWNgUPdFLAT SIGNcSORIcKORON"]⟩,
  ⟨0x1D200, [
    "aGREEK VOCAL NOTATION SYMBOL-1+++++++++++++++++++++++dSYMBOL-50++++",
    "bINSTRUMENTAL NOTATION SYMBOL-1+dSYMBOL-4+dSYMBOL-7+dSYMBOL-11+++dSYMBOL-17++dSYMBOL-23++++",
    "dSYMBOL-29+dSYMBOL-32dSYMBOL-36++++dSYMBOL-42+dSYMBOL-45dSYMBOL-47+++++++",
    "aCOMBINING GREEK MUSICAL TRISEMEdTETRASEMEdPENTASEMEaGREEK MUSICAL LEIMMA"]⟩,
  ⟨0x1D2E0, [
    "aMAYAN NUMERAL ZEROcONEcTWOcTHREEcFOURcFIVEcSIXcSEVENcEIGHTcNINEcTENcELEVENcTWELVEcTHIRTEEN",
    "cFOURTEENcFIFTEENcSIXTEENcSEVENTEENcEIGHTEENcNINETEEN"]⟩,
  ⟨0x1D300, [
    "aMONOGRAM FOR EARTHaDIGRAM FOR HEAVENLYncHUMANncEARTHLY HEAVENdHUMANcEARTH",
    "aTETRAGRAM FOR CENTREcFULL CIRCLEcMIREDcBARRIERcKEEPING SMALLcCONTRARIETYcASCENTcOPPOSITION",
    "cBRANCHING OUTcDEFECTIVENESS OR DISTORTIONcDIVERGENCEcYOUTHFULNESScINCREASEcPENETRATION",
    "cREACHcCONTACTcHOLDING BACKcWAITINGcFOLLOWINGcADVANCEcRELEASEcRESISTANCEcEASEcJOYcCONTENTION",
    "cENDEAVOURcDUTIEScCHANGEcDECISIVENESScBOLD RESOLUTIONcPACKINGcLEGIONcCLOSENESScKINSHIP",
    "cGATHERINGcSTRENGTHcPURITYcFULLNESScRESIDENCEcLAW OR MODELcRESPONSEcGOING TO MEETcENCOUNTERS",
    "cSTOVEcGREATNESScENLARGEMENTcPATTERNcRITUALcFLIGHTcVASTNESS OR WASTINGcCONSTANCYcMEASURE",
    "cETERNITYcUNITYcDIMINISHMENTcCLOSED MOUTHcGUARDEDNESScGATHERING INcMASSINGcACCUMULATION",
    "cEMBELLISHMENTcDOUBTcWATCHcSINKINGcINNERcDEPARTUREcDARKENINGcDIMMINGcEXHAUSTIONcSEVERANCE",
    "cSTOPPAGEcHARDNESScCOMPLETIONcCLOSUREcFAILUREcAGGRAVATIONcCOMPLIANCEcON THE VERGE",
    "cDIFFICULTIEScLABOURINGcFOSTERING"]⟩,
  ⟨0x1D360, [
    "aCOUNTING ROD UNIT DIGIT ONEeTWOeTHREEeFOUReFIVEeSIXeSEVENeEIGHTeNINEcTENS DIGIT ONEeTWO",
    "eTHREEeFOUReFIVEeSIXeSEVENeEIGHTeNINEaIDEOGRAPHIC TALLY MARK ONEdTWOdTHREEdFOURdFIVE",
    "aTALLY MARK ONEcFIVE"]⟩,
  ⟨0x1D400, [
    "aMATHEMATICAL BOLD CAPITAL AdBdCdDdEdFdGdHdIdJdKdLdMdNdOdPdQdRdSdTdUdVdWdXdYdZcSMALL AdBdCdD",
    "dEdFdGdHdIdJdKdLdMdNdOdPdQdRdSdTdUdVdWdXdYdZbITALIC CAPITAL AdBdCdDdEdFdGdHdIdJdKdLdMdNdOdP",
    "dQdRdSdTdUdVdWdXdYdZcSMALL AdBdCdDdEdFdG_dIdJdKdLdMdNdOdPdQdRdSdTdUdVdWdXdYdZ",
    "bBOLD ITALIC CAPITAL AeBeCeDeEeFeGeHeIeJeKeLeMeNeOePeQeReSeTeUeVeWeXeYeZdSMALL AeBeCeDeEeFeG",
    "eHeIeJeKeLeMeNeOePeQeReSeTeUeVeWeXeYeZbSCRIPT CAPITAL A_dCdD__dG__dJdK__dNdOdPdQ_dSdTdUdVdW",
    "dXdYdZcSMALL AdBdCdD_dF_dHdIdJdKdLdMdN_dPdQdRdSdTdUdVdWdXdYdZbBOLD SCRIPT CAPITAL AeBeCeDeE",
    "eFeGeHeIeJeKeLeMeNeOePeQeReSeTeUeVeWeXeYeZdSMALL AeBeCeDeEeFeGeHeIeJeKeLeMeNeOePeQeReSeTeUeV",
    "eWeXeYeZbFRAKTUR CAPITAL AdB_dDdEdFdG__dJdKdLdMdNdOdPdQ_dSdTdUdVdWdXdY_cSMALL AdBdCdDdEdFdG",
    "dHdIdJdKdLdMdNdOdPdQdRdSdTdUdVdWdXdYdZbDOUBLE-STRUCK CAPITAL AdB_dDdEdFdG_dIdJdKdLdM_dO___dS",
    "dTdUdVdWdXdY_cSMALL AdBdCdDdEdFdGdHdIdJdKdLdMdNdOdPdQdRdSdTdUdVdWdXdYdZ",
    "bBOLD FRAKTUR CAPITAL AeBeCeDeEeFeGeHeIeJeKeLeMeNeOePeQeReSeTeUeVeWeXeYeZdSMALL AeBeCeDeEeF",
    "eGeHeIeJeKeLeMeNeOePeQeReSeTeUeVeWeXeYeZbSANS-SERIF CAPITAL AdBdCdDdEdFdGdHdIdJdKdLdMdNdOdP",
    "dQdRdSdTdUdVdWdXdYdZcSMALL AdBdCdDdEdFdGdHdIdJdKdLdMdNdOdPdQdRdSdTdUdVdWdXdYdZ",
    "cBOLD CAPITAL AeBeCeDeEeFeGeHeIeJeKeLeMeNeOePeQeReSeTeUeVeWeXeYeZdSMALL AeBeCeDeEeFeGeHeIeJ",
    "eKeLeMeNeOePeQeReSeTeUeVeWeXeYeZcITALIC CAPITAL AeBeCeDeEeFeGeHeIeJeKeLeMeNeOePeQeReSeTeUeV",
    "eWeXeYeZdSMALL AeBeCeDeEeFeGeHeIeJeKeLeMeNeOePeQeReSeTeUeVeWeXeYeZcBOLD ITALIC CAPITAL AfBfC",
    "fDfEfFfGfHfIfJfKfLfMfNfOfPfQfRfSfTfUfVfWfXfYfZeSMALL AfBfCfDfEfFfGfHfIfJfKfLfMfNfOfPfQfRfSfT",
    "fUfVfWfXfYfZbMONOSPACE CAPITAL AdBdCdDdEdFdGdHdIdJdKdLdMdNdOdPdQdRdSdTdUdVdWdXdYdZcSMALL AdB",
    "dCdDdEdFdGdHdIdJdKdLdMdNdOdPdQdRdSdTdUdVdWdXdYdZbITALIC SMALL DOTLESS IeJ__",
    "bBOLD CAPITAL ALPHAdBETAdGAMMAdDELTAdEPSILONdZETAdETAdTHETAdIOTAdKAPPAdLAMDAdMUdNUdXI",
    "dOMICRONdPIdRHOdTHETA SYMBOLdSIGMAdTAUdUPSILONdPHIdCHIdPSIdOMEGAcNABLAcSMALL ALPHAdBETA",
    "dGAMMAdDELTAdEPSILONdZETAdETAdTHETAdIOTAdKAPPAdLAMDAdMUdNUdXIdOMICRONdPIdRHOdFINAL SIGMAdn",
    "dTAUdUPSILONdPHIdCHIdPSIdOMEGAcPARTIAL DIFFERENTIALcEPSILON SYMBOLcTHETAncKAPPAncPHIncRHOn",
    "cPInbITALIC CAPITAL ALPHAdBETAdGAMMAdDELTAdEPSILONdZETAdETAdTHETAdIOTAdKAPPAdLAMDAdMUdNUdXI",
    "dOMICRONdPIdRHOdTHETA SYMBOLdSIGMAdTAUdUPSILONdPHIdCHIdPSIdOMEGAcNABLAcSMALL ALPHAdBETA",
    "dGAMMAdDELTAdEPSILONdZETAdETAdTHETAdIOTAdKAPPAdLAMDAdMUdNUdXIdOMICRONdPIdRHOdFINAL SIGMAdn",
    "dTAUdUPSILONdPHIdCHIdPSIdOMEGAcPARTIAL DIFFERENTIALcEPSILON SYMBOLcTHETAncKAPPAncPHIncRHOn",
    "cPInbBOLD ITALIC CAPITAL ALPHAeBETAeGAMMAeDELTAeEPSILONeZETAeETAeTHETAeIOTAeKAPPAeLAMDAeMU",
    "eNUeXIeOMICRONePIeRHOeTHETA SYMBOLeSIGMAeTAUeUPSILONePHIeCHIePSIeOMEGAdNABLAdSMALL ALPHA",
    "eBETAeGAMMAeDELTAeEPSILONeZETAeETAeTHETAeIOTAeKAPPAeLAMDAeMUeNUeXIeOMICRONePIeRHO",
    "eFINAL SIGMAeneTAUeUPSILONePHIeCHIePSIeOMEGAdPARTIAL DIFFERENTIALdEPSILON SYMBOLdTHETAn",
    "dKAPPAndPHIndRHOndPInbSANS-SERIF BOLD CAPITAL ALPHAeBETAeGAMMAeDELTAeEPSILONeZETAeETAeTHETA",
    "eIOTAeKAPPAeLAMDAeMUeNUeXIeOMICRONePIeRHOeTHETA SYMBOLeSIGMAeTAUeUPSILONePHIeCHIePSIeOMEGA",
    "dNABLAdSMALL ALPHAeBETAeGAMMAeDELTAeEPSILONeZETAeETAeTHETAeIOTAeKAPPAeLAMDAeMUeNUeXIeOMICRON",
    "ePIeRHOeFINAL SIGMAeneTAUeUPSILONePHIeCHIePSIeOMEGAdPARTIAL DIFFERENTIALdEPSILON SYMBOL",
    "dTHETAndKAPPAndPHIndRHOndPIndITALIC CAPITAL ALPHAfBETAfGAMMAfDELTAfEPSILONfZETAfETAfTHETA",
    "fIOTAfKAPPAfLAMDAfMUfNUfXIfOMICRONfPIfRHOfTHETA SYMBOLfSIGMAfTAUfUPSILONfPHIfCHIfPSIfOMEGA",
    "eNABLAeSMALL ALPHAfBETAfGAMMAfDELTAfEPSILONfZETAfETAfTHETAfIOTAfKAPPAfLAMDAfMUfNUfXIfOMICRON",
    "fPIfRHOfFINAL SIGMAfnfTAUfUPSILONfPHIfCHIfPSIfOMEGAePARTIAL DIFFERENTIALeEPSILON SYMBOL",
    "eTHETAneKAPPAnePHIneRHOnePInbBOLD CAPITAL DIGAMMAcSMALLn__cDIGIT ZEROdONEdTWOdTHREEdFOUR",
    "dFIVEdSIXdSEVENdEIGHTdNINEbDOUBLE-STRUCK DIGIT ZEROdONEdTWOdTHREEdFOURdFIVEdSIXdSEVENdEIGHT",
    "dNINEbSANS-SERIF DIGIT ZEROdONEdTWOdTHREEdFOURdFIVEdSIXdSEVENdEIGHTdNINEcBOLD DIGIT ZEROeONE",
    "eTWOeTHREEeFOUReFIVEeSIXeSEVENeEIGHTeNINEbMONOSPACE DIGIT ZEROdONEdTWOdTHREEdFOURdFIVEdSIX",
    "dSEVENdEIGHTdNINEaSIGNWRITING HAND-FIST INDEXbHAND-CIRCLEnbHAND-CUPnbHAND-OVALnbHAND-HINGEn",
    "bHAND-ANGLEnbHAND-FIST INDEX BENTbHAND-CIRCLEobHAND-FIST THUMB UNDERocINDEX RAISED KNUCKLE",
    "dCUPPEDdHINGEDeLOWbHAND-CIRCLE INDEX HINGEbHAND-FIST INDEX MIDDLEbHAND-CIRCLEo",
    "bHAND-FIST INDEX MIDDLE BENTeRAISED KNUCKLESeHINGEDdUPodHINGED MIDDLE UPdMIDDLE CONJOINED",
    "fINDEX BENTfMIDDLEnfCUPPEDfHINGEDeCROSSEDbHAND-CIRCLEpbHAND-FIST MIDDLE BENT OVER INDEX",
    "cINDEX BENT OVER MIDDLEdMIDDLE THUMBbHAND-CIRCLEpbHAND-FIST INDEX MIDDLE STRAIGHT THUMB BENT",
    "eBENT THUMB STRAIGHTeTHUMB BENTeHINGED SPREAD THUMB SIDEdUP MIDDLE HINGEDohCONJOINED",
    "dHINGED MIDDLE UP THUMB SIDEdMIDDLE UP SPREAD THUMB FORWARDeTHUMB CUPPEDfCIRCLEDfHOOKED",
    "fHINGEDcTHUMB BETWEEN INDEX MIDDLE STRAIGHTcINDEX MIDDLE CONJOINED THUMB SIDEhCONJOINEDhBENT",
    "cMIDDLE THUMB HOOKED INDEX UPcINDEX THUMB HOOKED MIDDLEndMIDDLE CONJOINED HINGED THUMB SIDE",
    "eCROSSEDoeCONJOINED THUMB FORWARDfCUPPEDocMIDDLE THUMB CUPPED INDEX UP",
    "cINDEX THUMB CUPPED MIDDLEncMIDDLE THUMB CIRCLED INDEXngHINGED",
    "cINDEX THUMB ANGLED OUT MIDDLE UPfINoeCIRCLEDodMIDDLE THUMB CONJOINED HINGEDfANGLED OUTg",
    "cMIDDLE THUMB ANGLED OUT INDEX UPhCROSSEDfINDEX UPcINDEX THUMB HOOKED MIDDLE HINGED",
    "bHAND-FLAT FOUR FINGERSeBENTeHINGEDeCONJOINEDfSPLITbHAND-CLAW FOUR FINGERS CONJOINED",
    "bHAND-FIST FOUR FINGERS CONJOINED BENTbHAND-HINGE FOUR FINGERS CONJOINED",
    "bHAND-FLAT FIVE FINGERS SPREADcHEELpcFIVE FINGERS SPREAD FOUR BENTcHEELr",
    "cFIVE FINGERS SPREADncHEELqcFIVE FINGERS SPREAD THUMB FORWARDbHAND-CUP FIVE FINGERS SPREAD",
    "fOPENbHAND-HINGEqbHAND-OVAL FIVE FINGERS SPREADbHAND-FLAT FIVE FINGERS SPREAD HINGED",
    "gTHUMB SIDEgNO THUMBccBETWEEN PALM FACINGScHEELcTHUMB SIDEcHEELocTHUMB BENTdFORWARD",
    "cSPLIT INDEX THUMB SIDEdCENTREeTHUMB SIDEgBENTdLITTLEbHAND-CLAWcTHUMB SIDEcNO THUMB",
    "cTHUMB FORWARDbHAND-HOOK CURLICUEcbHAND-CUP OPENccOPEN THUMB SIDEcocOPEN NO THUMBco",
    "cOPEN THUMB FORWARDcobHAND-CURLICUE OPENcbHAND-CIRCLEbHAND-OVALcTHUMB SIDEcNO THUMB",
    "cTHUMB FORWARDbHAND-HINGE OPENdTHUMB FORWARDccSMALLcOPEN THUMB SIDEcocOPEN NO THUMBco",
    "cTHUMB SIDE TOUCHING INDEXdBETWEEN MIDDLE RINGbHAND-ANGLEbHAND-FIST INDEX MIDDLE RING",
    "bHAND-CIRCLEpbHAND-HINGEpbHAND-ANGLEpbHAND-HINGE LITTLEbHAND-FIST INDEX MIDDLE RING BENT",
    "fCONJOINEDbHAND-HINGEqbHAND-FIST LITTLE DOWNeRIPPLE STRAIGHTfCURVEDeOTHERS CIRCLEDdUP",
    "cTHUMB UNDERobHAND-CIRCLEobHAND-OVALobHAND-ANGLEobHAND-FIST LITTLE RAISED KNUCKLEdBENT",
    "dTOUCHES THUMBdnbHAND-HINGEobHAND-FIST LITTLE INDEXnbHAND-HINGEp",
    "bHAND-ANGLE LITTLE INDEX THUMB INDEX THUMB OUThbHAND-FIST LITTLE INDEXbHAND-CIRCLEo",
    "bHAND-HINGEobHAND-ANGLEobHAND-FIST INDEX MIDDLE LITTLEbHAND-CIRCLEpbHAND-HINGEpcRING",
    "bHAND-ANGLE INDEX MIDDLE LITTLEbHAND-FIST INDEX MIDDLE CROSSnbHAND-CIRCLEq",
    "bHAND-FIST RING DOWNbHAND-HINGE RING DOWN INDEX THUMB HOOK MIDDLE",
    "bHAND-ANGLE RING DOWN MIDDLE THUMB INDEX CROSSbHAND-FIST RING UPdRAISED KNUCKLEdLITTLE",
    "bHAND-CIRCLEobHAND-OVALobHAND-ANGLEobHAND-FIST RING MIDDLEeCONJOINEDeRAISED KNUCKLESdINDEX",
    "dTHUMBbHAND-HOOKobHAND-FIST INDEX RING LITTLEbHAND-CIRCLEp",
    "bHAND-CURLICUE INDEX RING LITTLE ONbHAND-HOOK INDEX RING LITTLE OUTfINfUNDER",
    "bHAND-CUP INDEX RING LITTLEbHAND-HINGEpbHAND-ANGLE INDEX RING LITTLE OUTf",
    "bHAND-FIST MIDDLE DOWNbHAND-HINGE MIDDLEbHAND-FIST MIDDLE UPbHAND-CIRCLEo",
    "bHAND-FIST MIDDLE RAISED KNUCKLEdUP THUMB SIDEbHAND-HOOK MIDDLE THUMB",
    "bHAND-FIST MIDDLE THUMB LITTLEdndRINGnbHAND-CIRCLEpbHAND-CURLICUE MIDDLE RING LITTLE ON",
    "bHAND-CUP MIDDLE RING LITTLEbHAND-HINGEpbHAND-ANGLE MIDDLE RING LITTLE OUTfINf",
    "bHAND-CIRCLE MIDDLE RING LITTLE BENTbHAND-CLAW MIDDLE RING LITTLE CONJOINEDgSIDE",
    "bHAND-HOOK MIDDLE RING LITTLE CONJOINED OUTgINgbHAND-HINGE INDEX HINGED",
    "bHAND-FIST INDEX THUMB SIDEbHAND-HINGEpbHAND-FIST INDEX THUMB SIDE THUMB DIAGONALgCONJOINED",
    "gBENTfINDEXnfBOTHnfINDEX HINGEeFORWARD INDEX STRAIGHTgBENTeHOOKeCURLICUEeCURVE THUMB INSIDE",
    "bHAND-CLAWrbHAND-FIST INDEX THUMB CURVE THUMB UNDEReCIRCLEbHAND-CUP INDEX THUMBeOPEN",
    "bHAND-HINGEpeLARGEeeSMALLbHAND-ANGLE INDEX THUMB OUTeINebHAND-FISTndHEELdSIDE DIAGONAL",
    "eCONJOINEDeBENTdFORWARDdBETWEEN INDEX MIDDLEeMIDDLE RINGeRING LITTLEdUNDER TWO FINGERSdOVERo",
    "dUNDER THREEneFOURndOVER FOUR RAISED KNUCKLESccHEELbTOUCH SINGLEcMULTIPLEcBETWEEN",
    "bGRASP SINGLEcMULTIPLEcBETWEENbSTRIKE SINGLEcMULTIPLEcBETWEENbBRUSH SINGLEcMULTIPLEcBETWEEN",
    "bRUB SINGLEcMULTIPLEcBETWEENbSURFACE SYMBOLScBETWEENbSQUEEZE LARGE SINGLEcSMALLn",
    "cLARGE MULTIPLEcSMALLncSEQUENTIALbFLICK LARGE SINGLEcSMALLncLARGE MULTIPLEcSMALLncSEQUENTIAL",
    "bSQUEEZE FLICK ALTERNATINGbMOVEMENT-HINGE UP DOWN LARGEeSMALLdSEQUENTIALcDOWNn",
    "cUP DOWN ALTERNATING LARGEfSMALLcSIDE TO SIDE SCISSORSbMOVEMENT-WALLPLANE FINGER CONTACT",
    "bMOVEMENT-FLOORPLANEobMOVEMENT-WALLPLANE SINGLE STRAIGHT SMALLeMEDIUMeLARGEeLARGEST",
    "dWRIST FLEXcDOUBLE STRAIGHTdWRIST FLEXdALTERNATINGeWRIST FLEXcCROSScTRIPLE STRAIGHT MOVEMENT",
    "dWRIST FLEXdALTERNATINGeWRIST FLEXcBEND SMALLdMEDIUMdLARGEcCORNER SMALLdMEDIUMdLARGE",
    "dROTATIONcCHECK SMALLdMEDIUMdLARGEcBOX SMALLdMEDIUMdLARGEcZIGZAG SMALLdMEDIUMdLARGE",
    "cPEAKS SMALLdMEDIUMdLARGEbTRAVEL-WALLPLANE ROTATION-WALLPLANE SINGLEdDOUBLEdALTERNATING",
    "cROTATION-FLOORPLANE SINGLEdDOUBLEdALTERNATINGcSHAKINGcARM SPIRAL SINGLEeDOUBLEeTRIPLE",
    "bMOVEMENT-DIAGONAL AWAY SMALLdMEDIUMdLARGEdLARGESTcTOWARDS SMALLdMEDIUMdLARGEdLARGEST",
    "cBETWEEN AWAY SMALLeMEDIUMeLARGEeLARGESTdTOWARDS SMALLeMEDIUMeLARGEeLARGEST",
    "bMOVEMENT-FLOORPLANE SINGLE STRAIGHT SMALLeMEDIUMeLARGEeLARGESTdWRIST FLEXcDOUBLE STRAIGHT",
    "dWRIST FLEXdALTERNATINGeWRIST FLEXcCROSScTRIPLE STRAIGHT MOVEMENTdWRIST FLEX",
    "dALTERNATING MOVEMENTeWRIST FLEXcBENDcCORNER SMALLdMEDIUMdLARGEcCHECKcBOX SMALLdMEDIUMdLARGE",
    "cZIGZAG SMALLdMEDIUMdLARGEcPEAKS SMALLdMEDIUMdLARGE",
    "bTRAVEL-FLOORPLANE ROTATION-FLOORPLANE SINGLEdDOUBLEdALTERNATINGcROTATION-WALLPLANE SINGLE",
    "dDOUBLEdALTERNATINGcSHAKINGbMOVEMENT-WALLPLANE CURVE QUARTER SMALLeMEDIUMeLARGEeLARGEST",
    "dHALF-CIRCLE SMALLeMEDIUMeLARGEeLARGESTdTHREE-QUARTER CIRCLE SMALLfMEDIUMcHUMP SMALLdMEDIUM",
    "dLARGEcLOOP SMALLdMEDIUMdLARGEdSMALL DOUBLEcWAVE CURVE DOUBLE SMALLfMEDIUMfLARGE",
    "eTRIPLE SMALLfMEDIUMfLARGEcCURVE THEN STRAIGHTcCURVED CROSS SMALLeMEDIUM",
    "bROTATION-WALLPLANE SINGLEcDOUBLEcALTERNATEbMOVEMENT-WALLPLANE SHAKING",
    "cCURVE HITTING FRONT WALLcHUMPpcLOOPpcWAVEpbROTATION-WALLPLANE SINGLEpcDOUBLEpcALTERNATINGp",
    "bMOVEMENT-WALLPLANE CURVE HITTING CHESTcHUMPocLOOPocWAVEobROTATION-WALLPLANE SINGLEocDOUBLEo",
    "cALTERNATINGobMOVEMENT-WALLPLANE WAVE DIAGONAL PATH SMALLfMEDIUMfLARGE",
    "bMOVEMENT-FLOORPLANE CURVE HITTING CEILING SMALLfLARGEcHUMP HITTING CEILING SMALL DOUBLE",
    "fLARGEnfSMALL TRIPLEfLARGEncLOOP HITTING CEILING SMALL SINGLEfLARGEnfSMALL DOUBLEfLARGEn",
    "cWAVE HITTING CEILING SMALLfLARGEbROTATION-FLOORPLANE SINGLE HITTING CEILINGcDOUBLEo",
    "cALTERNATINGobMOVEMENT-FLOORPLANE CURVE HITTING FLOOR SMALLfLARGE",
    "cHUMP HITTING FLOOR SMALL DOUBLEfLARGEnfTRIPLE SMALL TRIPLEgLARGEn",
    "cLOOP HITTING FLOOR SMALL SINGLEfLARGEnfSMALL DOUBLEfLARGEncWAVE HITTING FLOOR SMALLfLARGE",
    "bROTATION-FLOORPLANE SINGLE HITTING FLOORcDOUBLEocALTERNATINGo",
    "bMOVEMENT-FLOORPLANE CURVE SMALLdMEDIUMdLARGEdLARGESTdCOMBINEDcHUMP SMALLcLOOPncWAVE SNAKE",
    "dSMALLdLARGEbROTATION-FLOORPLANE SINGLEcDOUBLEcALTERNATING",
    "bMOVEMENT-FLOORPLANE SHAKING PARALLELbMOVEMENT-WALLPLANE ARM CIRCLE SMALL SINGLEeMEDIUMn",
    "eSMALL DOUBLEeMEDIUMnbMOVEMENT-FLOORPLANE ARM CIRCLE HITTING WALL SMALL SINGLEgMEDIUMn",
    "gLARGEngSMALL DOUBLEgMEDIUMngLARGEnbMOVEMENT-WALLPLANE WRIST CIRCLE FRONT SINGLEfDOUBLE",
    "bMOVEMENT-FLOORPLANE WRIST CIRCLE HITTING WALL SINGLEgDOUBLE",
    "bMOVEMENT-WALLPLANE FINGER CIRCLES SINGLEeDOUBLE",
    "bMOVEMENT-FLOORPLANE FINGER CIRCLES HITTING WALL SINGLEgDOUBLEbDYNAMIC ARROWHEAD SMALLdLARGE",
    "cFASTcSLOWcTENSEcRELAXEDcSIMULTANEOUSdALTERNATINGcEVERY OTHER TIMEcGRADUALbHEADcRIM",
    "cMOVEMENT-WALLPLANE STRAIGHTdTILTcMOVEMENT-FLOORPLANE STRAIGHTcMOVEMENT-WALLPLANE CURVE",
    "cMOVEMENT-FLOORPLANEncMOVEMENT CIRCLEbFACE DIRECTION POSITION NOSE FORWARD TILTING",
    "fUP OR DOWNiTILTINGbEYEBROWS STRAIGHT UPdNEUTRALdDOWNbDREAMY EYEBROWS NEUTRALndDOWN NEUTRAL",
    "dUPndNEUTRAL UPbFOREHEAD NEUTRALcCONTACTcWRINKLEDbEYES OPENcSQUEEZEDcCLOSEDbEYE BLINK SINGLE",
    "dMULTIPLEbEYES HALF OPENcWIDEncHALF CLOSEDcWIDENING MOVEMENTbEYE WINKbEYELASHES UPcDOWN",
    "cFLUTTERINGbEYEGAZE-WALLPLANE STRAIGHTdDOUBLEdALTERNATINGbEYEGAZE-FLOORPLANE STRAIGHTdDOUBLE",
    "dALTERNATINGbEYEGAZE-WALLPLANE CURVEDbEYEGAZE-FLOORPLANEnbEYEGAZE-WALLPLANE CIRCLING",
    "bCHEEKS PUFFEDcNEUTRALcSUCKEDbTENSE CHEEKS HIGHdMIDDLEdLOWbEARSbNOSE NEUTRALcCONTACT",
    "cWRINKLEScWIGGLESbAIR BLOWING OUTcSUCKING INcBLOW SMALL ROTATIONScSUCKobBREATH INHALEcEXHALE",
    "bMOUTH CLOSED NEUTRALdFORWARDdCONTACTcSMILEdWRINKLEDdOPENcFROWNdWRINKLEDdOPENcOPEN CIRCLE",
    "dFORWARDdWRINKLEDdOVALeWRINKLEDeYAWNdRECTANGLEeWRINKLEDeYAWNcKISSdFORWARDdWRINKLEDcTENSE",
    "dFORWARDdSUCKEDbLIPS PRESSED TOGETHERbLIP LOWER OVER UPPERcUPPER OVER LOWERbMOUTH CORNERS",
    "cWRINKLES SINGLEdDOUBLEbTONGUE STICKING OUT FARcLICKING LIPScTIP BETWEENn",
    "dTOUCHING INSIDE MOUTHcINSIDE MOUTH RELAXEDcMOVES AGAINST CHEEKcCENTRE STICKING OUT",
    "dINSIDE MOUTHbTEETHcMOVEMENTcON TONGUEeMOVEMENTdLIPSeMOVEMENTcBITE LIPS",
    "bMOVEMENT-WALLPLANE JAWbMOVEMENT-FLOORPLANEnbNECKbHAIRbEXCITEMENTbSHOULDER HIP SPINE",
    "dPOSITIONSbWALLPLANE SHOULDER HIP MOVEbFLOORPLANEpbSHOULDER TILTING FROM WAIST",
    "bTORSO-WALLPLANE STRAIGHT STRETCHcCURVED BENDbTORSO-FLOORPLANE TWISTING",
    "bUPPER BODY TILTING FROM HIP JOINTSbLIMB COMBINATIONcLENGTH-1++++++bFINGER",
    "bLOCATION-WALLPLANE SPACEbLOCATION-FLOORPLANEnbLOCATION HEIGHTcWIDTHcDEPTHcHEAD NECKcTORSO",
    "cLIMBS DIGITSbCOMMAbFULL STOPbSEMICOLONbCOLONbPARENTHESIS"]⟩,
  ⟨0x1DA9B, [
    "aSIGNWRITING FILL MODIFIER-2++++_bROTATION MODIFIER-2++++++++++++++"]⟩,
  ⟨0x1DF00, [
    "aLATIN SMALL LETTER FENG DIGRAPH WITH TRILLdREVERSED SCRIPT GbLETTER SMALL CAPITAL TURNEDn",
    "bSMALL LETTER REVERSED KbLETTER SMALL CAPITAL L WITH BELT",
    "bSMALL LETTER LEZH WITH RETROFLEX HOOKdTURNED Y WITH BELTdREVERSED ENG",
    "dTURNED R WITH LONG LEG AND RETROFLEX HOOKdT WITH HOOKpbLETTER RETROFLEX CLICK WITHo",
    "bSMALL LETTER ESH WITH DOUBLE BARhAND CURLdTURNED T WITHnbLETTER INVERTED GLOTTAL STOPo",
    "cSTRETCHED CocSMALL CAPITAL TURNED KbSMALL LETTER L WITH FISHHOOK",
    "dDEZH DIGRAPH WITH PALATAL HOOKdL WITH BELT ANDodENG WITHodTURNED RpdR WITH FISHHOOK ANDo",
    "dTESH DIGRAPH WITHodEZHpdDEZH DIGRAPH WITH RETROFLEXndI WITH STROKE ANDodO WITHo",
    "dTESH DIGRAPHpdCpdS WITH CURL"]⟩,
  ⟨0x1E000, [
    "aCOMBINING GLAGOLITIC LETTER AZUdBUKYdVEDEdGLAGOLIdDOBROdYESTUdZHIVETE_dZEMLJAdIZHEdINITIALn",
    "dIdDJERVIdKAKOdLJUDIJEdMYSLITEdNASHIdONUdPOKOJIdRITSIdSLOVOdTVRIDOdUKUdFRITUdHERU__dSHTAdTSI",
    "dCHRIVIdSHAdYERUdYERIdYATI_dYUdSMALL YUS_dYOdIOTATED SMALL YUSdBIGndIOTATEDodFITA"]⟩,
  ⟨0x1E100, [
    "aNYIAKENG PUACHUE HMONG LETTER MAeTSAeNTAeTAeHAeNAeXAeNKAeCAeLAeSAeZAeNCAeNTSAeKAeDAeNYAeNRA",
    "eVAeNTXAeTXAeFAeRAeQAeYAeNQAePAeXYAeNPAeDLAeNPLAeHAHeMLAePLAeGAeRRAeAeAAeIeUeOeOOeEeEEeW___",
    "dTONE-BdTONE-MdTONE-JdTONE-VdTONE-SdTONE-GdTONE-DdSIGN FOR PERSONfTHINGfLOCATIONfANIMAL",
    "fINVERTEBRATEeXW XWdSYLLABLE LENGTHENER__dDIGIT ZEROeONEeTWOeTHREEeFOUReFIVEeSIXeSEVENeEIGHT",
    "eNINE"]⟩,
  ⟨0x1E14E, [
    "aNYIAKENG PUACHUE HMONG LOGOGRAM NYAJdCIRCLED CA"]⟩,
  ⟨0x1E290, [
    "aTOTO LETTER PAcBAcTAcDAcKAcGAcMAcNAcNGAcSAcCHAcYAcWAcJAcHAcRAcLAcIcBREATHYncIUcBREATHYncUcE",
    "cBREATHYncEOcBREATHYncOcAEcBREATHYncAbSIGN RISING TONE"]⟩,
  ⟨0x1E2C0, [
    "aWANCHO LETTER AAcAcBAcCAcDAcGAcYAcPHAcLAcNAcPAcTAcTHAcFAcSAcSHAcJAcZAcWAcVAcKAcOcAUcRAcMA",
    "cKHAcHAcEcIcNGAcUcLLHAcTSAcTRAcONGcAANGcANGcINGcONcENcAANcNYAcUENcYIHbTONE TUPcTUPNIcKOI",
    "cKOINIbDIGIT ZEROcONEcTWOcTHREEcFOURcFIVEcSIXcSEVENcEIGHTcNINE"]⟩,
  ⟨0x1E2FF, [
    "aWANCHO NGUN SIGN"]⟩,
  ⟨0x1E7E0, [
    "aETHIOPIC SYLLABLE HHYAcHHYUcHHYIcHHYAAcHHYEEcHHYEcHHYO_cGURAGE HHWAcHHWIcHHWEEcHHWE_",
    "cGURAGE MWIdMWEE_dQWIdQWEEdQWEdBWIdBWEEdKWIdKWEEdKWEdGWIdGWEEdGWEdFWIdFWEEdPWIdPWEE_",
    "aMENDE KIKAKUI SYLLABLE M001 KIdM002 KAdM003 KUdM065 KEEdM095 KEdM076 KOOdM048 KOdM179 KUA",
    "dM004 WIdM005 WAdM006 WUdM126 WEEdM118 WEdM114 WOOdM045 WOdM194 WUIdM143 WEIdM061 WVI",
    "dM049 WVAdM139 WVEdM007 MINdM008 MANdM009 MUNdM059 MENdM094 MONdM154 MUANdM189 MUENdM010 BI",
    "dM011 BAdM012 BUdM150 BEEdM097 BEdM103 BOOdM138 BOdM013 IdM014 AdM015 UdM163 EEdM100 E",
    "dM165 OOdM147 OdM137 EIdM131 INdM135ndM195 ANdM178 ENdM019 SIdM020 SAdM021 SUdM162 SEE",
    "dM116 SEdM136 SOOdM079 SOdM196 SIAdM025 LIdM026 LAdM027 LUdM084 LEEdM073 LEdM054 LOOdM153 LO",
    "dM110 LONG LEdM016 DIdM017 DAdM018 DUdM089 DEEdM180 DOOdM181 DOdM022 TIdM023 TAdM024 TU",
    "dM091 TEEdM055 TEdM104 TOOdM069 TOdM028 JIdM029 JAdM030 JUdM157 JEEdM113 JEdM160 JOOdM063 JO",
    "dM175 LONGndM031 YIdM032 YAdM033 YUdM109 YEEdM080 YEdM141 YOOdM121 YOdM034 FIdM035 FA",
    "dM036 FUdM078 FEEdM075 FEdM133 FOOdM088 FOdM197 FUAdM101 FANdM037 NINdM038 NANdM039 NUN",
    "dM117 NENdM169 NONdM176 HIdM041 HAdM186 HUdM040 HEEdM096 HEdM042 HOOdM140 HOdM083 HEEI",
    "dM128 HOOUdM053 HINdM130 HANdM087 HUNdM052 HENdM193 HONdM046 HUANdM090 NGGIdM043 NGGA",
    "dM082 NGGUdM115 NGGEEdM146 NGGEdM156 NGGOOdM120 NGGOdM159 NGGAAdM127 NGGUAdM086 LONG NGGE",
    "dM106 LONG NGGOOdM183 LONG NGGOdM155 GIdM111 GAdM168 GUdM190 GEEdM166 GUEIdM167 GUAN",
    "dM184 NGENdM057 NGONdM177 NGUANdM068 PIdM099 PAdM050 PUdM081 PEEdM051 PEdM102 POOdM066 PO",
    "dM145 MBIdM062 MBAdM122 MBUdM047 MBEEdM188ndM072 MBEdM172 MBOOdM174 MBOdM187 MBUU",
    "dM161 LONG MBEdM105 LONG MBOOdM142 LONG MBOdM132 KPIdM092 KPAdM074 KPUdM044 KPEEdM108 KPE",
    "dM112 KPOOdM158 KPOdM124 GBIdM056 GBAdM148 GBUdM093 GBEEdM107 GBEdM071 GBOOdM070 GBOdM171 RA",
    "dM123 NDIdM129 NDAdM125 NDUdM191 NDEEdM119 NDEdM067 NDOOdM064 NDOdM152 NJAdM192 NJU",
    "dM149 NJEEdM134 NJOOdM182 VIdM185 VAdM151 VUdM173 VEEdM085 VEdM144 VOOdM077 VOdM164 NYIN",
    "dM058 NYANdM170 NYUNdM098 NYENdM060 NYON__cDIGIT ONEdTWOdTHREEdFOURdFIVEdSIXdSEVENdEIGHT",
    "dNINEcCOMBINING NUMBER TEENSeTENSeHUNDREDSeTHOUSANDSeTENneHUNDREDneMILLIONS"]⟩,
  ⟨0x1E900, [
    "aADLAM CAPITAL LETTER ALIFdDAALIdLAAMdMIIMdBAdSINNYIIYHEdPEdBHEdRAdEdFAdIdOdDHAdYHEdWAWdNUN",
    "dKAFdYAdUdJIIMdCHIdHAdQAAFdGAdNYAdTUdNHAdVAdKHAdGBEdZALdKPOdSHAbSMALL LETTER ALIFdDAALIdLAAM",
    "dMIIMdBAdSINNYIIYHEdPEdBHEdRAdEdFAdIdOdDHAdYHEdWAWdNUNdKAFdYAdUdJIIMdCHIdHAdQAAFdGAdNYAdTU",
    "dNHAdVAdKHAdGBEdZALdKPOdSHAbALIF LENGTHENERbVOWELnbGEMINATION MARKbHAMZAbCONSONANT MODIFIER",
    "bGEMINATEobNUKTAbNASALIZATION MARK"]⟩,
  ⟨0x1E950, [
    "aADLAM DIGIT ZEROcONEcTWOcTHREEcFOURcFIVEcSIXcSEVENcEIGHTcNINE"]⟩,
  ⟨0x1E95E, [
    "aADLAM INITIAL EXCLAMATION MARKcQUESTIONn"]⟩,
  ⟨0x1EC71, [
    "aINDIC SIYAQ NUMBER ONEdTWOdTHREEdFOURdFIVEdSIXdSEVENdEIGHTdNINEdTENdTWENTYdTHIRTYdFORTY",
    "dFIFTYdSIXTYdSEVENTYdEIGHTYdNINETYdONE HUNDREDdTWOndTHREEndFOURndFIVEndSIXndSEVENndEIGHTn",
    "dNINEndONE THOUSANDdTWOndTHREEndFOURndFIVEndSIXndSEVENndEIGHTndNINEndTENndTWENTYndTHIRTYn",
    "dFORTYndFIFTYndSIXTYndSEVENTYndEIGHTYndNINETYndLAKHdLAKHANcLAKH MARKcNUMBER KARORdKARORAN",
    "dPREFIXED ONEeTWOeTHREEeFOUReFIVEeSIXeSEVENeEIGHTeNINEcPLACEHOLDERcFRACTION ONE QUARTEReHALF",
    "dTHREE QUARTERScRUPEE MARKcNUMBER ALTERNATE ONEeTWOeTEN THOUSANDcALTERNATE LAKH MARK"]⟩,
  ⟨0x1ED01, [
    "aOTTOMAN SIYAQ NUMBER ONEdTWOdTHREEdFOURdFIVEdSIXdSEVENdEIGHTdNINEdTENdTWENTYdTHIRTYdFORTY",
    "dFIFTYdSIXTYdSEVENTYdEIGHTYdNINETYdONE HUNDREDdTWOndTHREEndFOURndFIVEndSIXndSEVENndEIGHTn",
    "dNINEndONE THOUSANDdTWOndTHREEndFOURndFIVEndSIXndSEVENndEIGHTndNINEndTENndTWENTYndTHIRTYn",
    "dFORTYndFIFTYndSIXTYndSEVENTYndEIGHTYndNINETYncMARRATANcALTERNATE NUMBER TWOeTHREEeFOUReFIVE",
    "eSIXeSEVENeEIGHTeNINEeTENeFOUR HUNDREDeSIXneTWO THOUSANDeTENncFRACTION ONE HALFeSIXTH"]⟩,
  ⟨0x1EE00, [
    "aARABIC MATHEMATICAL ALEFcBEHcJEEMcDAL_cWAWcZAINcHAHcTAHcYEHcKAFcLAMcMEEMcNOONcSEENcAINcFEH",
    "cSADcQAFcREHcSHEENcTEHcTHEHcKHAHcTHALcDADcZAHcGHAINcDOTLESS BEHdNOONdFEHdQAF_cINITIAL BEH",
    "dJEEM_dHEH__dHAH_dYEHdKAFdLAMdMEEMdNOONdSEENdAINdFEHdSADdQAF_dSHEENdTEHdTHEHdKHAH_dDAD_",
    "dGHAIN"]⟩,
  ⟨0x1EE42, [
    "aARABIC MATHEMATICAL TAILED JEEM"]⟩,
  ⟨0x1EE47, [
    "aARABIC MATHEMATICAL TAILED HAH_dYEH_dLAM_dNOONdSEENdAIN_dSADdQAF_dSHEEN__dKHAH_dDAD_dGHAIN_",
    "dDOTLESS NOON_eQAF_cSTRETCHED BEHdJEEM_dHEH__dHAHdTAHdYEHdKAF_dMEEMdNOONdSEENdAINdFEHdSAD",
    "dQAF_dSHEENdTEHdTHEHdKHAH_dDADdZAHdGHAINdDOTLESS BEH_eFEH_cLOOPED ALEFdBEHdJEEMdDALdHEHdWAW",
    "dZAINdHAHdTAHdYEH_dLAMdMEEMdNOONdSEENdAINdFEHdSADdQAFdREHdSHEENdTEHdTHEHdKHAHdTHALdDADdZAH",
    "dGHAIN"]⟩,
  ⟨0x1EEA1, [
    "aARABIC MATHEMATICAL DOUBLE-STRUCK BEHdJEEMdDAL_dWAWdZAINdHAHdTAHdYEH_dLAMdMEEMdNOONdSEEN",
    "dAINdFEHdSADdQAFdREHdSHEENdTEHdTHEHdKHAHdTHALdDADdZAHdGHAIN"]⟩,
  ⟨0x1EEF0, [
    "aARABIC MATHEMATICAL OPERATOR MEEM WITH HAH WITH TATWEELdHAH WITH DAL"]⟩]

end FormDialogue.Unicode
